import NggPrimShader.Basic
import NggPrimShader.Mesh.Outputs
import Mathlib

/-! What the mesh shader exports for a primitive and a vertex
(`MeshTaskShader::exportPrimitive`, `exportVertex`): the primitive payload
word, whose VRS field is the hardware shading rate of `convertToHwShadingRate`,
and the clip and cull distances a vertex exports as position data and, for a
fragment shader that reads them, as attributes. Values are dwords; a poison
lane of the padding reads as 0.

The shading rate is proved to be the largest rate the hardware supports that
fits in the one the API asks for; the payload's fields to read back as the
hardware's layout documents them; and every clip and cull distance to reach the
channel where the rasterizer and the fragment shader read it. -/

namespace NggPrimShader.Mesh.Export

open NggPrimShader.Basic NggPrimShader.Mesh.Outputs

-- The API shading-rate flags, declared outside the sources; the values are those of the
-- table in `convertToHwShadingRate`: vertical rate in bits [1:0], horizontal in [3:2].
def ShadingRateVertical2Pixels : Nat := 0x1

def ShadingRateVertical4Pixels : Nat := 0x2

def ShadingRateHorizontal2Pixels : Nat := 0x4

def ShadingRateHorizontal4Pixels : Nat := 0x8

def HwShadingRate1x2 : Nat := 0x1

def HwShadingRate2x1 : Nat := 0x4

/-- `convertToHwShadingRate`. GFX11 keeps the API bits and clamps 1x4 and 4x1,
which it lacks, to 1x2 and 2x1; GFX10.3 has 2-pixel rates only, with the
horizontal flag in bit 0 and the vertical one in bit 2. -/
def convertToHwShadingRate (gfxIpMajor primitiveShadingRate : Nat) : Nat :=
  if gfxIpMajor ≥ 11 then
    let hwShadingRate := primitiveShadingRate &&& (ShadingRateHorizontal2Pixels |||
      ShadingRateHorizontal4Pixels ||| ShadingRateVertical2Pixels ||| ShadingRateVertical4Pixels)
    let hwShadingRate :=
      if hwShadingRate = ShadingRateVertical4Pixels then HwShadingRate1x2 else hwShadingRate
    if hwShadingRate = ShadingRateHorizontal4Pixels then HwShadingRate2x1 else hwShadingRate
  else
    let hwXRate :=
      if primitiveShadingRate &&& (ShadingRateHorizontal2Pixels ||| ShadingRateHorizontal4Pixels) ≠ 0
      then 1 else 0
    let hwYRate :=
      if primitiveShadingRate &&& (ShadingRateVertical2Pixels ||| ShadingRateVertical4Pixels) ≠ 0
      then 1 else 0
    hwYRate <<< 2 ||| hwXRate

def rateLog (rate : Nat) : Nat × Nat := (rate / 4 % 4, rate % 4)

def hwRateLog (gfxIpMajor hwShadingRate : Nat) : Nat × Nat :=
  if gfxIpMajor ≥ 11 then rateLog hwShadingRate else (hwShadingRate % 4, hwShadingRate / 4 % 4)

def supportedRates (gfxIpMajor : Nat) : List (Nat × Nat) :=
  if gfxIpMajor ≥ 11 then [(0, 0), (0, 1), (1, 0), (1, 1), (1, 2), (2, 1), (2, 2)]
  else [(0, 0), (0, 1), (1, 0), (1, 1)]

def ApiRateValid (rate : Nat) : Prop := rate / 4 % 4 ≤ 2 ∧ rate % 4 ≤ 2

instance : DecidablePred ApiRateValid := fun _ => inferInstanceAs (Decidable (_ ∧ _))

/-- `hw` is the largest of `supported` that fits in `req` in both directions. -/
def IsLargestFit (supported : List (Nat × Nat)) (req hw : Nat × Nat) : Prop :=
  hw ∈ supported ∧ (hw.1 ≤ req.1 ∧ hw.2 ≤ req.2) ∧
    ∀ s ∈ supported, s.1 ≤ req.1 ∧ s.2 ≤ req.2 → s.1 ≤ hw.1 ∧ s.2 ≤ hw.2

instance (supported : List (Nat × Nat)) (req hw : Nat × Nat) :
    Decidable (IsLargestFit supported req hw) :=
  inferInstanceAs (Decidable (_ ∧ _ ∧ _))

theorem land_eq_mod_land (r : Nat) {m : Nat} (hm : m < 16) : r &&& m = r % 16 &&& m := by
  have h15 : ∀ x, x % 16 = x &&& 15 := fun x => (Nat.and_pow_two_sub_one_eq_mod x 4).symm
  rw [h15, Nat.land_assoc, Nat.land_comm 15, ← h15, Nat.mod_eq_of_lt hm]

theorem convertToHwShadingRate_mod (gfxIpMajor r : Nat) :
    convertToHwShadingRate gfxIpMajor r = convertToHwShadingRate gfxIpMajor (r % 16) := by
  simp only [convertToHwShadingRate, ShadingRateHorizontal2Pixels, ShadingRateHorizontal4Pixels,
    ShadingRateVertical2Pixels, ShadingRateVertical4Pixels]
  simp only [land_eq_mod_land r (by decide : 4 ||| 8 ||| 1 ||| 2 < 16),
    land_eq_mod_land r (by decide : 4 ||| 8 < 16), land_eq_mod_land r (by decide : 1 ||| 2 < 16),
    Nat.mod_mod]

theorem convertToHwShadingRate_of_ge {gfxIpMajor : Nat} (r : Nat) (h : 11 ≤ gfxIpMajor) :
    convertToHwShadingRate gfxIpMajor r = convertToHwShadingRate 11 r := by
  simp [convertToHwShadingRate, h]

theorem convertToHwShadingRate_of_lt {gfxIpMajor : Nat} (r : Nat) (h : gfxIpMajor < 11) :
    convertToHwShadingRate gfxIpMajor r = convertToHwShadingRate 10 r := by
  simp [convertToHwShadingRate, Nat.not_le.mpr h]

theorem convertToHwShadingRate_lt (gfxIpMajor r : Nat) : convertToHwShadingRate gfxIpMajor r < 16 := by
  have key : ∀ q < 16, convertToHwShadingRate 11 q < 16 ∧ convertToHwShadingRate 10 q < 16 := by
    decide
  rw [convertToHwShadingRate_mod]
  rcases Nat.lt_or_ge gfxIpMajor 11 with h | h
  · exact convertToHwShadingRate_of_lt _ h ▸ (key _ (Nat.mod_lt _ (by decide))).2
  · exact convertToHwShadingRate_of_ge _ h ▸ (key _ (Nat.mod_lt _ (by decide))).1

theorem convertToHwShadingRate_largestFit {gfxIpMajor : Nat} (r : Nat)
    (hvalid : 11 ≤ gfxIpMajor → ApiRateValid r) :
    IsLargestFit (supportedRates gfxIpMajor) (rateLog r)
      (hwRateLog gfxIpMajor (convertToHwShadingRate gfxIpMajor r)) := by
  have hlog : rateLog r = rateLog (r % 16) := by simp only [rateLog, Prod.mk.injEq]; omega
  have hq : r % 16 < 16 := Nat.mod_lt _ (by decide)
  rw [hlog, convertToHwShadingRate_mod]
  rcases Nat.lt_or_ge gfxIpMajor 11 with h | h
  · have key : ∀ q < 16, IsLargestFit (supportedRates 10) (rateLog q)
        (hwRateLog 10 (convertToHwShadingRate 10 q)) := by decide
    simpa [supportedRates, hwRateLog, convertToHwShadingRate_of_lt _ h, Nat.not_le.mpr h] using
      key _ hq
  · have key : ∀ q < 16, ApiRateValid q → IsLargestFit (supportedRates 11) (rateLog q)
        (hwRateLog 11 (convertToHwShadingRate 11 q)) := by decide
    have hv : ApiRateValid (r % 16) := by
      obtain ⟨h1, h2⟩ := hvalid h
      constructor <;> omega
    simpa [supportedRates, hwRateLog, convertToHwShadingRate_of_ge _ h, h] using key _ hq hv

example : convertToHwShadingRate 11 ShadingRateHorizontal4Pixels = HwShadingRate2x1 := by decide

/-- The per-primitive built-ins `exportPrimitive` reads with
`readMeshBuiltInFromLds`, each present when `builtInUsage.mesh` marks it used. -/
structure PrimitiveBuiltIns where
  primitiveId : Option Nat
  layer : Option Nat
  viewportIndex : Option Nat
  primitiveShadingRate : Option Nat
  deriving DecidableEq, Repr

def orIntoPayload (primitivePayload : Option Nat) : Option Nat → Option Nat
  | none => primitivePayload
  | some field => some (match primitivePayload with
    | some payload => payload ||| field
    | none => field)

def primitiveIdField (gfxIpMajor : Nat) (b : PrimitiveBuiltIns) : Option Nat :=
  if gfxIpMajor < 11 then b.primitiveId.map (· &&& 0x1FFFF) else none

def layerField (gfxIpMajor : Nat) (enableMultiView : Bool) (viewIndex : Nat)
    (b : PrimitiveBuiltIns) : Option Nat :=
  if enableMultiView || b.layer.isSome then
    let layer := if enableMultiView then viewIndex else b.layer.getD 0
    some (if gfxIpMajor < 11 then (layer &&& 0x7) <<< 17 else layer &&& 0x1FFF)
  else none

def viewportIndexField (b : PrimitiveBuiltIns) : Option Nat :=
  b.viewportIndex.map fun viewportIndex => (viewportIndex &&& 0xF) <<< 20

def shadingRateField (gfxIpMajor : Nat) (b : PrimitiveBuiltIns) : Option Nat :=
  b.primitiveShadingRate.map fun rate => (convertToHwShadingRate gfxIpMajor rate &&& 0xF) <<< 28

/-- The second dword of the primitive export of `exportPrimitive`, `nullptr`
(`none`) when no field is used. -/
def primitivePayload (gfxIpMajor : Nat) (enableMultiView : Bool) (viewIndex : Nat)
    (b : PrimitiveBuiltIns) : Option Nat :=
  [primitiveIdField gfxIpMajor b, layerField gfxIpMajor enableMultiView viewIndex b,
    viewportIndexField b, shadingRateField gfxIpMajor b].foldl orIntoPayload none

/-- The fields the hardware reads from a payload, by the layout the comment of
`exportPrimitive` gives: before GFX11 the primitive ID in [16:0] and the RT
slice in [19:17], from GFX11 (which has no primitive ID field) the RT slice in
[12:0]; on both the viewport in [23:20] and the VRS rate in [31:28]. -/
structure PayloadFields where
  pipelinePrimId : Nat
  rtSliceIndex : Nat
  viewportIndex : Nat
  vrsRate : Nat
  deriving DecidableEq, Repr

def payloadFields (gfxIpMajor payload : Nat) : PayloadFields :=
  if gfxIpMajor < 11 then
    ⟨createUBfe payload 0 17, createUBfe payload 17 3, createUBfe payload 20 4, createUBfe payload 28 4⟩
  else ⟨0, createUBfe payload 0 13, createUBfe payload 20 4, createUBfe payload 28 4⟩

@[simp] theorem orIntoPayload_getD (payload field : Option Nat) :
    (orIntoPayload payload field).getD 0 = payload.getD 0 ||| field.getD 0 := by
  cases field <;> cases payload <;> simp [orIntoPayload]

theorem or_shiftLeft_eq_add {p k : Nat} (x : Nat) (hp : p < 2 ^ k) : p ||| x <<< k = p + 2 ^ k * x := by
  rw [Nat.lor_comm, shiftLeft_or_eq_add x hp, Nat.add_comm]

theorem land_mask (m k : Nat) (hm : m = 2 ^ k - 1) (x : Nat) : x &&& m = x % 2 ^ k :=
  hm ▸ Nat.and_pow_two_sub_one_eq_mod x k

theorem primitiveIdField_getD (gfxIpMajor : Nat) (b : PrimitiveBuiltIns) :
    (primitiveIdField gfxIpMajor b).getD 0 =
      if gfxIpMajor < 11 then b.primitiveId.getD 0 % 2 ^ 17 else 0 := by
  by_cases hg : gfxIpMajor < 11 <;> cases h : b.primitiveId <;>
    simp [primitiveIdField, h, hg, land_mask 0x1FFFF 17 rfl]

theorem layerField_getD (gfxIpMajor : Nat) (enableMultiView : Bool) (viewIndex : Nat)
    (b : PrimitiveBuiltIns) :
    (layerField gfxIpMajor enableMultiView viewIndex b).getD 0 =
      let layer := if enableMultiView then viewIndex else b.layer.getD 0
      if gfxIpMajor < 11 then (layer % 8) <<< 17 else layer % 2 ^ 13 := by
  by_cases hg : gfxIpMajor < 11 <;> cases enableMultiView <;> cases h : b.layer <;>
    simp [layerField, h, hg, land_mask 0x7 3 rfl, land_mask 0x1FFF 13 rfl]

theorem viewportIndexField_getD (b : PrimitiveBuiltIns) :
    (viewportIndexField b).getD 0 = (b.viewportIndex.getD 0 % 16) <<< 20 := by
  cases h : b.viewportIndex <;> simp [viewportIndexField, h, land_mask 0xF 4 rfl]

theorem shadingRateField_getD (gfxIpMajor : Nat) (b : PrimitiveBuiltIns) :
    (shadingRateField gfxIpMajor b).getD 0 =
      ((b.primitiveShadingRate.map (convertToHwShadingRate gfxIpMajor)).getD 0) <<< 28 := by
  cases h : b.primitiveShadingRate <;>
    simp [shadingRateField, h, land_mask 0xF 4 rfl, Nat.mod_eq_of_lt (convertToHwShadingRate_lt _ _)]

theorem primitivePayload_getD (gfxIpMajor : Nat) (enableMultiView : Bool) (viewIndex : Nat)
    (b : PrimitiveBuiltIns) :
    let layer := if enableMultiView then viewIndex else b.layer.getD 0
    let vrsRate := (b.primitiveShadingRate.map (convertToHwShadingRate gfxIpMajor)).getD 0
    (primitivePayload gfxIpMajor enableMultiView viewIndex b).getD 0 =
      (if gfxIpMajor < 11 then b.primitiveId.getD 0 % 2 ^ 17 + 2 ^ 17 * (layer % 8)
        else layer % 2 ^ 13) + 2 ^ 20 * (b.viewportIndex.getD 0 % 16) + 2 ^ 28 * vrsRate := by
  by_cases h : gfxIpMajor < 11 <;>
    simp (disch := omega) only [primitivePayload, List.foldl, orIntoPayload_getD, Option.getD_none,
      Nat.zero_or, primitiveIdField_getD, layerField_getD, viewportIndexField_getD,
      shadingRateField_getD, h, if_true, if_false, or_shiftLeft_eq_add]

/-- The hardware reads every field of the payload back as the code masked it
(the fields never overlap, and an unused one reads as 0), and the payload is a
dword. -/
theorem primitivePayload_fields (gfxIpMajor : Nat) (enableMultiView : Bool) (viewIndex : Nat)
    (b : PrimitiveBuiltIns) :
    let payload := (primitivePayload gfxIpMajor enableMultiView viewIndex b).getD 0
    let layer := if enableMultiView then viewIndex else b.layer.getD 0
    payloadFields gfxIpMajor payload =
      ⟨if gfxIpMajor < 11 then b.primitiveId.getD 0 % 2 ^ 17 else 0,
        if gfxIpMajor < 11 then layer % 8 else layer % 2 ^ 13,
        b.viewportIndex.getD 0 % 16,
        (b.primitiveShadingRate.map (convertToHwShadingRate gfxIpMajor)).getD 0⟩ ∧
      payload < 2 ^ 32 := by
  have hrate : (b.primitiveShadingRate.map (convertToHwShadingRate gfxIpMajor)).getD 0 < 16 := by
    cases h : b.primitiveShadingRate <;> simp [h, convertToHwShadingRate_lt]
  simp only [primitivePayload_getD]
  by_cases h : gfxIpMajor < 11 <;>
    simp only [payloadFields, h, if_true, if_false, createUBfe_eq, PayloadFields.mk.injEq,
      true_and] <;> omega

example : primitivePayload 11 false 0 ⟨some 5, some 3, some 2, some 0b1000⟩ = some 0x40200003 := by
  decide

structure ExportInfo where
  index : Nat
  values : List (Option Nat)
  deriving DecidableEq, Repr

def ExportInfo.ofValue (index value : Nat) : ExportInfo := ⟨index, [some value, none, none, none]⟩

def ExportInfo.ofVec4 (index : Nat) (values : List Nat) : ExportInfo :=
  ⟨index, (values.take 4).map some⟩

def exportedChannel (exports : List ExportInfo) (index comp : Nat) : Option Nat :=
  (exports.find? fun e => e.index == index).bind fun e => e.values.getD comp none

/-- The per-vertex built-ins `exportVertex` reads with `readMeshBuiltInFromLds`;
the counts `builtInUsage.mesh.clipDistance` and `cullDistance` are the lengths
of the lists. -/
structure VertexBuiltIns where
  position : Option (List Nat)
  pointSize : Option Nat
  clipDistance : List Nat
  cullDistance : List Nat
  deriving DecidableEq, Repr

def poison : Nat := 0

def padClipCullDistances (clipCullDistances : List Nat) : List Nat :=
  if clipCullDistances.length ≤ 4 then
    clipCullDistances ++ List.replicate (4 - clipCullDistances.length) poison
  else clipCullDistances ++ List.replicate (8 - clipCullDistances.length) poison

def clipCullExports (pos : Nat) (clipCullDistances : List Nat) : List ExportInfo :=
  ExportInfo.ofVec4 pos clipCullDistances ::
    if clipCullDistances.length > 4 then [ExportInfo.ofVec4 (pos + 1) (clipCullDistances.drop 4)]
    else []

/-- The position exports of `exportVertex`: the position at 0, the point size at
1, then the clip distances followed by the cull distances. -/
def posExports (v : VertexBuiltIns) : List ExportInfo :=
  (match v.position with
    | some position => [ExportInfo.ofVec4 0 position]
    | none => []) ++
  (match v.pointSize with
    | some pointSize => [ExportInfo.ofValue 1 pointSize]
    | none => []) ++
  if v.clipDistance.length > 0 || v.cullDistance.length > 0 then
    clipCullExports (if v.pointSize.isSome then 2 else 1)
      (padClipCullDistances (v.clipDistance ++ v.cullDistance))
  else []

structure FsBuiltInUsage where
  clipDistance : Nat
  cullDistance : Nat
  layer : Bool
  viewportIndex : Bool
  deriving DecidableEq, Repr

def fsClipCullDistances (v : VertexBuiltIns) (fs : FsBuiltInUsage) : List Nat :=
  let clipDistanceCount := min fs.clipDistance v.clipDistance.length
  let cullDistanceCount := min fs.cullDistance v.cullDistance.length
  padClipCullDistances (v.clipDistance.take clipDistanceCount ++
    List.replicate (fs.clipDistance - clipDistanceCount) poison ++
    v.cullDistance.take cullDistanceCount)

def clipCullAttrExports (v : VertexBuiltIns) (nextFs : Option FsBuiltInUsage) (exportLoc : Nat) :
    List ExportInfo :=
  if v.clipDistance.length > 0 || v.cullDistance.length > 0 then
    match nextFs with
    | none => clipCullExports exportLoc (padClipCullDistances (v.clipDistance ++ v.cullDistance))
    | some fs =>
      if fs.clipDistance > 0 || fs.cullDistance > 0 then clipCullExports exportLoc (fsClipCullDistances v fs)
      else []
  else []

theorem padClipCullDistances_eq (xs : List Nat) :
    ∃ n, padClipCullDistances xs = xs ++ List.replicate n poison := by
  unfold padClipCullDistances
  split_ifs
  exacts [⟨_, rfl⟩, ⟨_, rfl⟩]

theorem length_padClipCullDistances {xs : List Nat} (h : xs.length ≤ 8) :
    (padClipCullDistances xs).length ≤ 8 := by
  unfold padClipCullDistances
  split_ifs <;> simp <;> omega

theorem le_length_padClipCullDistances (xs : List Nat) : xs.length ≤ (padClipCullDistances xs).length := by
  obtain ⟨n, hn⟩ := padClipCullDistances_eq xs
  simp [hn]

theorem getElem?_padClipCullDistances {xs : List Nat} {k : Nat} (hk : k < xs.length) :
    (padClipCullDistances xs)[k]? = xs[k]? := by
  obtain ⟨n, hn⟩ := padClipCullDistances_eq xs
  rw [hn, List.getElem?_append_left hk]

theorem find?_append_of_forall {pre exps : List ExportInfo} {index : Nat}
    (h : ∀ e ∈ pre, e.index ≠ index) :
    (pre ++ exps).find? (fun e => e.index == index) = exps.find? fun e => e.index == index := by
  rw [List.find?_append, List.find?_eq_none.mpr (by simpa using h), Option.none_or]

theorem exportedChannel_clipCullExports {pos k : Nat} {xs : List Nat} (hlen : xs.length ≤ 8)
    (hk : k < xs.length) : exportedChannel (clipCullExports pos xs) (pos + k / 4) (k % 4) = xs[k]? := by
  rw [List.getElem?_eq_getElem hk]
  by_cases h4 : k < 4
  · simp [exportedChannel, clipCullExports, ExportInfo.ofVec4, Nat.div_eq_of_lt h4,
      Nat.mod_eq_of_lt h4, List.getD_eq_getElem?_getD, h4, hk]
  · have hdiv : k / 4 = 1 := by omega
    have hmod : k % 4 = k - 4 := by omega
    simp [exportedChannel, clipCullExports, ExportInfo.ofVec4, hdiv, hmod, show 4 < xs.length by omega,
      List.getD_eq_getElem?_getD, show k - 4 < 4 by omega, show k - 4 < xs.length - 4 by omega,
      show 4 + (k - 4) = k by omega]

theorem exportedChannel_append_of_forall {pre exps : List ExportInfo} {index : Nat} (comp : Nat)
    (h : ∀ e ∈ pre, e.index ≠ index) :
    exportedChannel (pre ++ exps) index comp = exportedChannel exps index comp := by
  simp only [exportedChannel, find?_append_of_forall h]

theorem exportedChannel_posExports {v : VertexBuiltIns}
    (hcount : v.clipDistance.length + v.cullDistance.length ≤ 8) {k : Nat}
    (hk : k < v.clipDistance.length + v.cullDistance.length) :
    exportedChannel (posExports v) ((if v.pointSize.isSome then 2 else 1) + k / 4) (k % 4) =
      (v.clipDistance ++ v.cullDistance)[k]? := by
  have hpre : ∀ e ∈ (match v.position with
      | some position => [ExportInfo.ofVec4 0 position]
      | none => []) ++
      (match v.pointSize with
      | some pointSize => [ExportInfo.ofValue 1 pointSize]
      | none => []), e.index ≠ (if v.pointSize.isSome then 2 else 1) + k / 4 := by
    cases v.position <;> cases v.pointSize <;> simp [ExportInfo.ofVec4, ExportInfo.ofValue] <;> omega
  have hxs : (v.clipDistance ++ v.cullDistance).length ≤ 8 := by simpa using hcount
  rw [posExports, if_pos (by simp only [gt_iff_lt, Bool.or_eq_true, decide_eq_true_eq]; omega),
    exportedChannel_append_of_forall _ hpre, exportedChannel_clipCullExports
      (length_padClipCullDistances hxs) ((by simpa using hk : k < _).trans_le
        (le_length_padClipCullDistances _)), getElem?_padClipCullDistances (by simpa using hk)]

theorem getElem?_fsClipCull_clip (v : VertexBuiltIns) (fs : FsBuiltInUsage) {i : Nat}
    (hi : i < min fs.clipDistance v.clipDistance.length) :
    (v.clipDistance.take (min fs.clipDistance v.clipDistance.length) ++
      List.replicate (fs.clipDistance - min fs.clipDistance v.clipDistance.length) poison ++
      v.cullDistance.take (min fs.cullDistance v.cullDistance.length))[i]? = v.clipDistance[i]? := by
  rw [List.append_assoc, List.getElem?_append_left (by simp; omega), List.getElem?_take_of_lt hi]

theorem getElem?_fsClipCull_cull (v : VertexBuiltIns) (fs : FsBuiltInUsage) {j : Nat}
    (hj : j < min fs.cullDistance v.cullDistance.length) :
    (v.clipDistance.take (min fs.clipDistance v.clipDistance.length) ++
      List.replicate (fs.clipDistance - min fs.clipDistance v.clipDistance.length) poison ++
      v.cullDistance.take (min fs.cullDistance v.cullDistance.length))[fs.clipDistance + j]? =
      v.cullDistance[j]? := by
  have hlen : (v.clipDistance.take (min fs.clipDistance v.clipDistance.length) ++
      List.replicate (fs.clipDistance - min fs.clipDistance v.clipDistance.length) poison).length =
      fs.clipDistance := by simp
  rw [List.getElem?_append_right (by omega), hlen, Nat.add_sub_cancel_left,
    List.getElem?_take_of_lt hj]

theorem exportedChannel_clipCullAttrExports {v : VertexBuiltIns} {fs : FsBuiltInUsage}
    (hfs : fs.clipDistance + fs.cullDistance ≤ 8) (exportLoc : Nat) {k : Nat}
    (hk : k < fs.clipDistance + min fs.cullDistance v.cullDistance.length)
    (hany : 0 < v.clipDistance.length ∨ 0 < v.cullDistance.length)
    (hfsany : 0 < fs.clipDistance ∨ 0 < fs.cullDistance) :
    exportedChannel (clipCullAttrExports v (some fs) exportLoc) (exportLoc + k / 4) (k % 4) =
      (v.clipDistance.take (min fs.clipDistance v.clipDistance.length) ++
        List.replicate (fs.clipDistance - min fs.clipDistance v.clipDistance.length) poison ++
        v.cullDistance.take (min fs.cullDistance v.cullDistance.length))[k]? := by
  have hlen : (v.clipDistance.take (min fs.clipDistance v.clipDistance.length) ++
      List.replicate (fs.clipDistance - min fs.clipDistance v.clipDistance.length) poison ++
      v.cullDistance.take (min fs.cullDistance v.cullDistance.length)).length =
      fs.clipDistance + min fs.cullDistance v.cullDistance.length := by simp; omega
  rw [clipCullAttrExports, if_pos (by simp only [gt_iff_lt, Bool.or_eq_true, decide_eq_true_eq]; omega),
    if_pos (by simp only [gt_iff_lt, Bool.or_eq_true, decide_eq_true_eq]; omega), fsClipCullDistances,
    exportedChannel_clipCullExports (length_padClipCullDistances (by omega))
      ((hlen ▸ hk).trans_le (le_length_padClipCullDistances _)), getElem?_padClipCullDistances (hlen ▸ hk)]

inductive BuiltInKind
  | clipDistance
  | cullDistance
  | primitiveId
  | layer
  | viewportIndex
  deriving DecidableEq, Repr

/-- What the exports read of the mesh shader's `inOutUsage.mesh`; its
`std::map`s of export locations are read by `List.lookup`. -/
structure MeshOutputUsage where
  genericOutputMapLocCount : Nat
  builtInExportLocs : List (BuiltInKind × Nat)
  perPrimitiveGenericOutputMapLocCount : Nat
  perPrimitiveBuiltInExportLocs : List (BuiltInKind × Nat)
  deriving DecidableEq, Repr

def exportLocCount (genericCount : Nat) (builtInExportLocs : List (BuiltInKind × Nat)) : Nat :=
  builtInExportLocs.foldl (fun count e => max count (e.2 + 1)) genericCount

/-- The location of the clip and cull distance attributes in `exportVertex`: the
clip distance's, else the cull distance's. -/
def clipCullExportLoc (usage : MeshOutputUsage) : Nat :=
  match usage.builtInExportLocs.lookup .clipDistance with
  | some exportLoc => exportLoc
  | none => (usage.builtInExportLocs.lookup .cullDistance).getD InvalidValue

/-- The export locations as the resource collection (outside src/) has to place
them for the exports to be told apart: the clip and cull distance attributes at
or past the generic outputs, and the per-primitive built-ins at or past the
per-primitive generic outputs, each at its own location. -/
structure MeshOutputUsage.WellFormed (usage : MeshOutputUsage) : Prop where
  clipCull_ge : usage.genericOutputMapLocCount ≤ clipCullExportLoc usage
  perPrimitive_ge : ∀ e ∈ usage.perPrimitiveBuiltInExportLocs, usage.perPrimitiveGenericOutputMapLocCount ≤ e.2
  perPrimitive_nodup : (usage.perPrimitiveBuiltInExportLocs.map Prod.snd).Nodup

instance (usage : MeshOutputUsage) : Decidable usage.WellFormed :=
  decidable_of_iff (_ ∧ _ ∧ _) ⟨fun ⟨h₁, h₂, h₃⟩ => ⟨h₁, h₂, h₃⟩, fun ⟨h₁, h₂, h₃⟩ => ⟨h₁, h₂, h₃⟩⟩

def vertAttrExports (usage : MeshOutputUsage) (v : VertexBuiltIns) (nextFs : Option FsBuiltInUsage)
    (lds : Nat → Nat) (ldsOffsetBase : Nat) : List ExportInfo :=
  (List.range usage.genericOutputMapLocCount).map (fun i =>
    ExportInfo.ofVec4 i (readValueFromLds lds 4 (ldsOffsetBase + 4 * i))) ++
  clipCullAttrExports v nextFs (clipCullExportLoc usage)

/-- Every clip and cull distance reaches the channel its reader takes it from:
in the position exports, past the position and the point size, the clip
distances and then the cull distances; in the attribute exports for a fragment
shader, the clip distances it reads and then its cull distances, from its own
count of clip distances on. -/
theorem exportVertex_clipCullDistances (usage : MeshOutputUsage) (v : VertexBuiltIns)
    (fs : FsBuiltInUsage) (lds : Nat → Nat) (ldsOffsetBase : Nat)
    (hmesh : v.clipDistance.length + v.cullDistance.length ≤ 8)
    (hfs : fs.clipDistance + fs.cullDistance ≤ 8) (hwf : usage.WellFormed) :
    let pos := if v.pointSize.isSome then 2 else 1
    let exportLoc := clipCullExportLoc usage
    let attrs := vertAttrExports usage v (some fs) lds ldsOffsetBase
    (∀ i < v.clipDistance.length,
      exportedChannel (posExports v) (pos + i / 4) (i % 4) = v.clipDistance[i]?) ∧
    (∀ j < v.cullDistance.length,
      exportedChannel (posExports v) (pos + (v.clipDistance.length + j) / 4)
        ((v.clipDistance.length + j) % 4) = v.cullDistance[j]?) ∧
    (∀ i < min fs.clipDistance v.clipDistance.length,
      exportedChannel attrs (exportLoc + i / 4) (i % 4) = v.clipDistance[i]?) ∧
    (∀ j < min fs.cullDistance v.cullDistance.length,
      exportedChannel attrs (exportLoc + (fs.clipDistance + j) / 4) ((fs.clipDistance + j) % 4) =
        v.cullDistance[j]?) := by
  intro pos exportLoc attrs
  have hloc := hwf.clipCull_ge
  have hgeneric : ∀ k, exportedChannel attrs (exportLoc + k / 4) (k % 4) =
      exportedChannel (clipCullAttrExports v (some fs) exportLoc) (exportLoc + k / 4) (k % 4) :=
    fun k => exportedChannel_append_of_forall _ (by simp [ExportInfo.ofVec4, exportLoc]; omega)
  refine ⟨fun i hi => ?_, fun j hj => ?_, fun i hi => ?_, fun j hj => ?_⟩
  · rw [exportedChannel_posExports hmesh (by omega), List.getElem?_append_left hi]
  · rw [exportedChannel_posExports hmesh (by omega), List.getElem?_append_right (by omega),
      Nat.add_sub_cancel_left]
  · rw [hgeneric, exportedChannel_clipCullAttrExports hfs _ (by omega) (by omega) (by omega),
      getElem?_fsClipCull_clip v fs hi]
  · rw [hgeneric, exportedChannel_clipCullAttrExports hfs _ (by omega) (by omega) (by omega),
      getElem?_fsClipCull_cull v fs hj]

theorem exportVertex_clipCullDistances_fs :
    let usage : MeshOutputUsage := ⟨1, [(.clipDistance, 1)], 0, []⟩
    let v : VertexBuiltIns := ⟨some [0, 0, 0, 1], some 1, [1, 2, 3], [4, 5, 6]⟩
    exportedChannel (vertAttrExports usage v (some ⟨2, 3, false, false⟩) (fun _ => 0) 0)
      (clipCullExportLoc usage + (2 + 0) / 4) ((2 + 0) % 4) = v.cullDistance[0]? :=
  (exportVertex_clipCullDistances ⟨1, [(.clipDistance, 1)], 0, []⟩
    ⟨some [0, 0, 0, 1], some 1, [1, 2, 3], [4, 5, 6]⟩ ⟨2, 3, false, false⟩ (fun _ => 0) 0
    (by decide) (by decide) (by decide)).2.2.2 0 (by decide)

def clipCullAttrLocs (v : VertexBuiltIns) (nextFs : Option FsBuiltInUsage) : Nat :=
  (clipCullAttrExports v nextFs 0).length

theorem index_of_mem_clipCullExports {pos : Nat} {xs : List Nat} {e : ExportInfo}
    (he : e ∈ clipCullExports pos xs) :
    pos ≤ e.index ∧ e.index < pos + (clipCullExports 0 xs).length := by
  unfold clipCullExports at he ⊢
  split_ifs at he ⊢ <;>
    simp only [List.mem_cons, List.mem_singleton, List.not_mem_nil, or_false] at he <;>
    rcases he with rfl | rfl <;> simp [ExportInfo.ofVec4]

theorem index_of_mem_clipCullAttrExports {v : VertexBuiltIns} {nextFs : Option FsBuiltInUsage}
    {exportLoc : Nat} {e : ExportInfo} (he : e ∈ clipCullAttrExports v nextFs exportLoc) :
    exportLoc ≤ e.index ∧ e.index < exportLoc + clipCullAttrLocs v nextFs := by
  unfold clipCullAttrLocs clipCullAttrExports at *
  split_ifs at he ⊢
  · cases nextFs with
    | none => exact index_of_mem_clipCullExports he
    | some fs =>
      dsimp only at he ⊢
      split_ifs at he ⊢
      · exact index_of_mem_clipCullExports he
      · simp at he
  · simp at he

theorem nodup_clipCullExports (pos : Nat) (xs : List Nat) :
    ((clipCullExports pos xs).map ExportInfo.index).Nodup := by
  unfold clipCullExports
  split_ifs <;> simp [ExportInfo.ofVec4]

theorem nodup_clipCullAttrExports (v : VertexBuiltIns) (nextFs : Option FsBuiltInUsage) (exportLoc : Nat) :
    ((clipCullAttrExports v nextFs exportLoc).map ExportInfo.index).Nodup := by
  unfold clipCullAttrExports
  split_ifs
  · cases nextFs with
    | none => exact nodup_clipCullExports _ _
    | some fs =>
      dsimp only
      split_ifs
      exacts [nodup_clipCullExports _ _, List.nodup_nil]
  · exact List.nodup_nil

theorem index_of_mem_vertAttrExports {usage : MeshOutputUsage} {v : VertexBuiltIns}
    {nextFs : Option FsBuiltInUsage} {lds : Nat → Nat} {ldsOffsetBase : Nat} {e : ExportInfo}
    (he : e ∈ vertAttrExports usage v nextFs lds ldsOffsetBase) :
    e.index < usage.genericOutputMapLocCount ∨
      (clipCullExportLoc usage ≤ e.index ∧ e.index < clipCullExportLoc usage + clipCullAttrLocs v nextFs) := by
  rcases List.mem_append.mp he with he | he
  · obtain ⟨i, hi, rfl⟩ := List.mem_map.mp he
    exact .inl (by simpa [ExportInfo.ofVec4] using hi)
  · exact .inr (index_of_mem_clipCullAttrExports he)

theorem nodup_vertAttrExports {usage : MeshOutputUsage} (v : VertexBuiltIns)
    (nextFs : Option FsBuiltInUsage) (lds : Nat → Nat) (ldsOffsetBase : Nat)
    (hloc : usage.genericOutputMapLocCount ≤ clipCullExportLoc usage) :
    ((vertAttrExports usage v nextFs lds ldsOffsetBase).map ExportInfo.index).Nodup := by
  rw [vertAttrExports, List.map_append, List.nodup_append]
  refine ⟨by simpa [List.map_map, Function.comp_def, ExportInfo.ofVec4] using List.nodup_range _,
    nodup_clipCullAttrExports _ _ _, ?_⟩
  intro a ha hb
  have hgeneric : a < usage.genericOutputMapLocCount := by simpa [ExportInfo.ofVec4] using ha
  obtain ⟨e, he, rfl⟩ := List.mem_map.mp hb
  have := (index_of_mem_clipCullAttrExports he).1
  omega

def exportedLayer (b : PrimitiveBuiltIns) (nextFs : Option FsBuiltInUsage) : Option Nat :=
  match b.layer with
  | some layer => some layer
  | none => if nextFs.any (·.layer) then some 0 else none

def exportedViewportIndex (b : PrimitiveBuiltIns) (nextFs : Option FsBuiltInUsage) : Option Nat :=
  match b.viewportIndex with
  | some viewportIndex => some viewportIndex
  | none => if nextFs.any (·.viewportIndex) then some 0 else none

def builtInAttrExport (usage : MeshOutputUsage) (startLoc : Nat) (kind : BuiltInKind) :
    Option Nat → List ExportInfo
  | some value =>
    match usage.perPrimitiveBuiltInExportLocs.lookup kind with
    | some exportLoc => [ExportInfo.ofValue (startLoc + exportLoc) value]
    | none => []
  | none => []

/-- The primitive attribute exports of `exportPrimitive`, from `startLoc`, past
the vertex attributes: generic output `loc` as read from the primitive's
outputs in LDS at `ldsOffsetBase + 4 * loc`, then the primitive ID, the layer and
the viewport index. -/
def primAttrExports (usage : MeshOutputUsage) (b : PrimitiveBuiltIns) (nextFs : Option FsBuiltInUsage)
    (lds : Nat → Nat) (ldsOffsetBase : Nat) : List ExportInfo :=
  let startLoc := exportLocCount usage.genericOutputMapLocCount usage.builtInExportLocs
  (List.range usage.perPrimitiveGenericOutputMapLocCount).map (fun loc =>
    ExportInfo.ofVec4 (startLoc + loc) (readValueFromLds lds 4 (ldsOffsetBase + 4 * loc))) ++
  builtInAttrExport usage startLoc .primitiveId b.primitiveId ++
  builtInAttrExport usage startLoc .layer (exportedLayer b nextFs) ++
  builtInAttrExport usage startLoc .viewportIndex (exportedViewportIndex b nextFs)

theorem le_exportLocCount (genericCount : Nat) (builtInExportLocs : List (BuiltInKind × Nat)) :
    genericCount ≤ exportLocCount genericCount builtInExportLocs := by
  induction builtInExportLocs generalizing genericCount with
  | nil => exact le_rfl
  | cons e locs ih => exact (le_max_left _ _).trans (ih _)

theorem lt_exportLocCount_of_mem (genericCount : Nat) {builtInExportLocs : List (BuiltInKind × Nat)}
    {e : BuiltInKind × Nat} (he : e ∈ builtInExportLocs) :
    e.2 < exportLocCount genericCount builtInExportLocs := by
  induction builtInExportLocs generalizing genericCount with
  | nil => cases he
  | cons e' locs ih =>
    rcases List.mem_cons.mp he with rfl | he
    · exact Nat.lt_of_lt_of_le (Nat.lt_of_lt_of_le (Nat.lt_succ_self _) (le_max_right _ _))
        (le_exportLocCount _ _)
    · exact ih _ he

theorem index_of_mem_builtInAttrExport {usage : MeshOutputUsage} {startLoc : Nat} {kind : BuiltInKind}
    {value : Option Nat} {e : ExportInfo} (he : e ∈ builtInAttrExport usage startLoc kind value) :
    ∃ exportLoc, usage.perPrimitiveBuiltInExportLocs.lookup kind = some exportLoc ∧
      e.index = startLoc + exportLoc := by
  unfold builtInAttrExport at he
  split at he
  · split at he
    · rename_i exportLoc hloc
      exact ⟨exportLoc, hloc, by simp_all [ExportInfo.ofValue]⟩
    · cases he
  · cases he

theorem index_of_mem_primAttrExports {usage : MeshOutputUsage} {b : PrimitiveBuiltIns}
    {nextFs : Option FsBuiltInUsage} {lds : Nat → Nat} {ldsOffsetBase : Nat} {e : ExportInfo}
    (he : e ∈ primAttrExports usage b nextFs lds ldsOffsetBase) :
    exportLocCount usage.genericOutputMapLocCount usage.builtInExportLocs ≤ e.index ∧
      e.index < exportLocCount usage.genericOutputMapLocCount usage.builtInExportLocs +
        exportLocCount usage.perPrimitiveGenericOutputMapLocCount usage.perPrimitiveBuiltInExportLocs := by
  have hbuiltIn : ∀ kind value, e ∈ builtInAttrExport usage
      (exportLocCount usage.genericOutputMapLocCount usage.builtInExportLocs) kind value →
      exportLocCount usage.genericOutputMapLocCount usage.builtInExportLocs ≤ e.index ∧
      e.index < exportLocCount usage.genericOutputMapLocCount usage.builtInExportLocs +
        exportLocCount usage.perPrimitiveGenericOutputMapLocCount usage.perPrimitiveBuiltInExportLocs :=
    fun kind value h => by
      obtain ⟨exportLoc, hloc, he⟩ := index_of_mem_builtInAttrExport h
      obtain ⟨l₁, l₂, hl, -⟩ := List.lookup_eq_some_iff.mp hloc
      have := lt_exportLocCount_of_mem usage.perPrimitiveGenericOutputMapLocCount
        (hl ▸ List.mem_append_right l₁ (List.mem_cons_self (kind, exportLoc) l₂))
      omega
  simp only [primAttrExports, List.mem_append] at he
  rcases he with ((he | he) | he) | he
  · obtain ⟨loc, hloc, rfl⟩ := List.mem_map.mp he
    have := le_exportLocCount usage.perPrimitiveGenericOutputMapLocCount usage.perPrimitiveBuiltInExportLocs
    simp only [ExportInfo.ofVec4, List.mem_range] at hloc ⊢
    omega
  all_goals exact hbuiltIn _ _ he

theorem nodup_builtInAttrExport (usage : MeshOutputUsage) (startLoc : Nat) (kind : BuiltInKind)
    (value : Option Nat) : ((builtInAttrExport usage startLoc kind value).map ExportInfo.index).Nodup := by
  unfold builtInAttrExport
  split
  · split <;> simp
  · simp

theorem builtInAttrExport_disjoint {usage : MeshOutputUsage} {startLoc : Nat} {kind₁ kind₂ : BuiltInKind}
    (hne : kind₁ ≠ kind₂) (hnd : (usage.perPrimitiveBuiltInExportLocs.map Prod.snd).Nodup)
    (value₁ value₂ : Option Nat) :
    ((builtInAttrExport usage startLoc kind₁ value₁).map ExportInfo.index).Disjoint
      ((builtInAttrExport usage startLoc kind₂ value₂).map ExportInfo.index) := by
  intro a h₁ h₂
  obtain ⟨e₁, he₁, rfl⟩ := List.mem_map.mp h₁
  obtain ⟨e₂, he₂, he⟩ := List.mem_map.mp h₂
  obtain ⟨loc₁, hloc₁, hi₁⟩ := index_of_mem_builtInAttrExport he₁
  obtain ⟨loc₂, hloc₂, hi₂⟩ := index_of_mem_builtInAttrExport he₂
  obtain ⟨l₁, l₂, hl, -⟩ := List.lookup_eq_some_iff.mp hloc₁
  obtain ⟨l₃, l₄, hl', -⟩ := List.lookup_eq_some_iff.mp hloc₂
  have hmem₁ : (kind₁, loc₁) ∈ usage.perPrimitiveBuiltInExportLocs := by rw [hl]; simp
  have hmem₂ : (kind₂, loc₂) ∈ usage.perPrimitiveBuiltInExportLocs := by rw [hl']; simp
  have hloc : loc₁ = loc₂ := by omega
  exact hne (Prod.mk.inj (List.inj_on_of_nodup_map hnd hmem₁ hmem₂ hloc)).1

theorem nodup_primAttrExports {usage : MeshOutputUsage} (b : PrimitiveBuiltIns)
    (nextFs : Option FsBuiltInUsage) (lds : Nat → Nat) (ldsOffsetBase : Nat)
    (hge : ∀ e ∈ usage.perPrimitiveBuiltInExportLocs, usage.perPrimitiveGenericOutputMapLocCount ≤ e.2)
    (hnd : (usage.perPrimitiveBuiltInExportLocs.map Prod.snd).Nodup) :
    ((primAttrExports usage b nextFs lds ldsOffsetBase).map ExportInfo.index).Nodup := by
  have hgeneric : ∀ kind value, ((List.range usage.perPrimitiveGenericOutputMapLocCount).map (fun loc =>
      ExportInfo.ofVec4 (exportLocCount usage.genericOutputMapLocCount usage.builtInExportLocs + loc)
        (readValueFromLds lds 4 (ldsOffsetBase + 4 * loc))) |>.map ExportInfo.index).Disjoint
      ((builtInAttrExport usage (exportLocCount usage.genericOutputMapLocCount usage.builtInExportLocs)
        kind value).map ExportInfo.index) := by
    intro kind value a h₁ h₂
    obtain ⟨e, he, rfl⟩ := List.mem_map.mp h₂
    obtain ⟨loc, hloc, hi⟩ := index_of_mem_builtInAttrExport he
    obtain ⟨l₁, l₂, hl, -⟩ := List.lookup_eq_some_iff.mp hloc
    have := hge (kind, loc) (by rw [hl]; simp)
    simp only [List.map_map, Function.comp_def, ExportInfo.ofVec4, List.mem_map, List.mem_range] at h₁
    omega
  have hrange : ((List.range usage.perPrimitiveGenericOutputMapLocCount).map (fun loc =>
      ExportInfo.ofVec4 (exportLocCount usage.genericOutputMapLocCount usage.builtInExportLocs + loc)
        (readValueFromLds lds 4 (ldsOffsetBase + 4 * loc))) |>.map ExportInfo.index).Nodup := by
    simpa [List.map_map, Function.comp_def, ExportInfo.ofVec4] using
      (List.nodup_range _).map fun _ _ h => Nat.add_left_cancel h
  simp only [primAttrExports, List.map_append, List.nodup_append, List.disjoint_append_left]
  exact ⟨⟨⟨hrange, nodup_builtInAttrExport _ _ _ _, hgeneric _ _⟩, nodup_builtInAttrExport _ _ _ _,
    hgeneric _ _, builtInAttrExport_disjoint (by decide) hnd _ _⟩, nodup_builtInAttrExport _ _ _ _,
    ⟨hgeneric _ _, builtInAttrExport_disjoint (by decide) hnd _ _⟩,
    builtInAttrExport_disjoint (by decide) hnd _ _⟩

end NggPrimShader.Mesh.Export
