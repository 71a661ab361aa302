import NggPrimShader.Cull.Backface
import NggPrimShader.Cull.Sphere
import NggPrimShader.Cull.BoxFilter
import NggPrimShader.Cull.SmallPrimFilter

/-! `doCulling`: the enabled cullers run one after another on the flag the
previous one returned, each with the registers it fetches from the primitive
shader table. Every culler but the backface one returns a flag passed in set,
and the backface culler runs first, on a clear flag, so the verdict is the OR
of the enabled cullers' verdicts, each run alone. -/
namespace NggPrimShader.Cull.Chain

open NggPrimShader.Basic NggPrimShader.Cull.Geometry NggPrimShader.Cull.Frustum NggPrimShader.Cull.BoxFilter
  NggPrimShader.Cull.Sphere NggPrimShader.Cull.SmallPrimFilter NggPrimShader.Cull.CullDistance
  NggPrimShader.Cull.Backface

structure NggControl where
  enableCulling : Bool  -- `enableCulling()`, declared outside the sources.
  enableBackfaceCulling : Bool
  enableFrustumCulling : Bool
  enableBoxFilterCulling : Bool
  enableSphereCulling : Bool
  enableSmallPrimFilter : Bool
  enableCullDistanceCulling : Bool
  backfaceExponent : Nat
  -- `primShaderTable.pipelineStateCb.paClVteCntl`, a constant of the compiled code.
  paClVteCntl : Nat
  deriving DecidableEq, Repr

/-- The byte offsets in `m_cbLayoutTable` of the registers the cullers fetch;
`buildPrimShaderCbLayoutLookupTable` takes them from the ABI's
`PrimShaderCbLayout`, which is declared outside the sources. The viewport ones
are those of `vportControls[0]`. -/
structure PrimShaderCbLayoutLookupTable where
  paSuScModeCntl : Nat
  paClClipCntl : Nat
  paClGbHorzDiscAdj : Nat
  paClGbVertDiscAdj : Nat
  enableConservativeRasterization : Nat
  paClVportXscale : Nat
  paClVportXoffset : Nat
  paClVportYscale : Nat
  paClVportYoffset : Nat
  deriving DecidableEq, Repr

/-- `createFetchCullingRegister`: the dword `regOffset >> 2` of the primitive
shader table. -/
def fetchCullingControlRegister (primShaderTable : Nat → Nat) (regOffset : Nat) : Nat :=
  primShaderTable (regOffset >>> 2)

section Wrappers

variable {α : Type} [LinearOrderedField α] [FloorRing α]
variable (ctrl : NggControl) (cb : PrimShaderCbLayoutLookupTable) (primShaderTable : Nat → Nat)

def doBackfaceCulling (cullFlag : Bool) (vertex0 vertex1 vertex2 : Vertex α) : Bool :=
  backfaceCuller cullFlag vertex0 vertex1 vertex2 ctrl.backfaceExponent
    (fetchCullingControlRegister primShaderTable cb.paSuScModeCntl)
    (fetchCullingControlRegister primShaderTable cb.paClVportXscale)
    (fetchCullingControlRegister primShaderTable cb.paClVportYscale)

variable (asFloat : Nat → α)

def doFrustumCulling (cullFlag : Bool) (vertex0 vertex1 vertex2 : Vertex α) : Bool :=
  frustumCuller cullFlag vertex0 vertex1 vertex2 (fetchCullingControlRegister primShaderTable cb.paClClipCntl)
    (asFloat (fetchCullingControlRegister primShaderTable cb.paClGbHorzDiscAdj))
    (asFloat (fetchCullingControlRegister primShaderTable cb.paClGbVertDiscAdj))

def doBoxFilterCulling (cullFlag : Bool) (vertex0 vertex1 vertex2 : Vertex α) : Bool :=
  boxFilterCuller cullFlag vertex0 vertex1 vertex2 ctrl.paClVteCntl
    (fetchCullingControlRegister primShaderTable cb.paClClipCntl)
    (asFloat (fetchCullingControlRegister primShaderTable cb.paClGbHorzDiscAdj))
    (asFloat (fetchCullingControlRegister primShaderTable cb.paClGbVertDiscAdj))

def doSphereCulling (cullFlag : Bool) (vertex0 vertex1 vertex2 : Vertex α) : Bool :=
  sphereCuller cullFlag vertex0 vertex1 vertex2 ctrl.paClVteCntl
    (fetchCullingControlRegister primShaderTable cb.paClClipCntl)
    (asFloat (fetchCullingControlRegister primShaderTable cb.paClGbHorzDiscAdj))
    (asFloat (fetchCullingControlRegister primShaderTable cb.paClGbVertDiscAdj))

/-- `doSmallPrimFilterCulling`: `conservativeRaster` is the run-time flag
compared with 1. -/
def doSmallPrimFilterCulling (cullFlag : Bool) (vertex0 vertex1 vertex2 : Vertex α) : Bool :=
  smallPrimFilterCuller ctrl.enableFrustumCulling cullFlag vertex0 vertex1 vertex2 ctrl.paClVteCntl
    (asFloat (fetchCullingControlRegister primShaderTable cb.paClVportXscale))
    (asFloat (fetchCullingControlRegister primShaderTable cb.paClVportXoffset))
    (asFloat (fetchCullingControlRegister primShaderTable cb.paClVportYscale))
    (asFloat (fetchCullingControlRegister primShaderTable cb.paClVportYoffset))
    (decide (fetchCullingControlRegister primShaderTable cb.enableConservativeRasterization = 1))

def doCullDistanceCulling (cullFlag : Bool) (signMask0 signMask1 signMask2 : Nat) : Bool :=
  cullDistanceCuller cullFlag signMask0 signMask1 signMask2

def gate (enable : Bool) (culler : Bool → Bool) (cullFlag : Bool) : Bool :=
  if enable then culler cullFlag else cullFlag

/-- `doCulling` for the primitive with relative vertex indices
`vertexIndex0..2`. `fetchVertexPositionData` and `fetchCullDistanceSignMask`
are the per-vertex fetches, modelled where the data they read is. -/
def doCulling (fetchVertexPositionData : Nat → Vertex α) (fetchCullDistanceSignMask : Nat → Nat)
    (vertexIndex0 vertexIndex1 vertexIndex2 : Nat) : Bool :=
  if !ctrl.enableCulling then false
  else
    let cullFlag := false
    let vertex0 := fetchVertexPositionData vertexIndex0
    let vertex1 := fetchVertexPositionData vertexIndex1
    let vertex2 := fetchVertexPositionData vertexIndex2
    let cullFlag := gate ctrl.enableBackfaceCulling
      (doBackfaceCulling ctrl cb primShaderTable · vertex0 vertex1 vertex2) cullFlag
    let cullFlag := gate ctrl.enableFrustumCulling
      (doFrustumCulling cb primShaderTable asFloat · vertex0 vertex1 vertex2) cullFlag
    let cullFlag := gate ctrl.enableBoxFilterCulling
      (doBoxFilterCulling ctrl cb primShaderTable asFloat · vertex0 vertex1 vertex2) cullFlag
    let cullFlag := gate ctrl.enableSphereCulling
      (doSphereCulling ctrl cb primShaderTable asFloat · vertex0 vertex1 vertex2) cullFlag
    let cullFlag := gate ctrl.enableSmallPrimFilter
      (doSmallPrimFilterCulling ctrl cb primShaderTable asFloat · vertex0 vertex1 vertex2) cullFlag
    let cullFlag := gate ctrl.enableCullDistanceCulling
      (doCullDistanceCulling · (fetchCullDistanceSignMask vertexIndex0) (fetchCullDistanceSignMask vertexIndex1)
        (fetchCullDistanceSignMask vertexIndex2)) cullFlag
    cullFlag

end Wrappers

theorem gate_eq_or {f : Bool → Bool} (hf : f true = true) (enable flag : Bool) :
    gate enable f flag = (flag || (enable && f false)) := by
  cases enable <;> cases flag <;> simp [gate, hf]

theorem gate_false (enable : Bool) (f : Bool → Bool) : gate enable f false = (enable && f false) := by
  cases enable <;> rfl

section Verdict

variable {α : Type} [LinearOrderedField α]
variable (ctrl : NggControl) (cb : PrimShaderCbLayoutLookupTable) (primShaderTable : Nat → Nat) (asFloat : Nat → α)
variable (v0 v1 v2 : Vertex α)

@[simp] theorem doFrustumCulling_true : doFrustumCulling cb primShaderTable asFloat true v0 v1 v2 = true := rfl

@[simp] theorem doBoxFilterCulling_true : doBoxFilterCulling ctrl cb primShaderTable asFloat true v0 v1 v2 = true :=
  rfl

@[simp] theorem doSphereCulling_true : doSphereCulling ctrl cb primShaderTable asFloat true v0 v1 v2 = true := rfl

@[simp] theorem doSmallPrimFilterCulling_true [FloorRing α] :
    doSmallPrimFilterCulling ctrl cb primShaderTable asFloat true v0 v1 v2 = true := by
  simp [doSmallPrimFilterCulling, smallPrimFilterCuller]

@[simp] theorem doCullDistanceCulling_true (s0 s1 s2 : Nat) : doCullDistanceCulling true s0 s1 s2 = true := rfl

/-- The verdict of `doCulling` is the OR of the enabled cullers' verdicts, each
run alone on a clear flag, in any configuration, for any registers and any
vertices. -/
theorem doCulling_eq_or [FloorRing α] (fetchVertexPositionData : Nat → Vertex α) (fetchCullDistanceSignMask : Nat → Nat)
    (vertexIndex0 vertexIndex1 vertexIndex2 : Nat) :
    doCulling ctrl cb primShaderTable asFloat fetchVertexPositionData fetchCullDistanceSignMask
        vertexIndex0 vertexIndex1 vertexIndex2 =
      (ctrl.enableCulling &&
        let vertex0 := fetchVertexPositionData vertexIndex0
        let vertex1 := fetchVertexPositionData vertexIndex1
        let vertex2 := fetchVertexPositionData vertexIndex2
        (ctrl.enableBackfaceCulling && doBackfaceCulling ctrl cb primShaderTable false vertex0 vertex1 vertex2) ||
          (ctrl.enableFrustumCulling && doFrustumCulling cb primShaderTable asFloat false vertex0 vertex1 vertex2) ||
          (ctrl.enableBoxFilterCulling &&
            doBoxFilterCulling ctrl cb primShaderTable asFloat false vertex0 vertex1 vertex2) ||
          (ctrl.enableSphereCulling && doSphereCulling ctrl cb primShaderTable asFloat false vertex0 vertex1 vertex2) ||
          (ctrl.enableSmallPrimFilter &&
            doSmallPrimFilterCulling ctrl cb primShaderTable asFloat false vertex0 vertex1 vertex2) ||
          (ctrl.enableCullDistanceCulling &&
            doCullDistanceCulling false (fetchCullDistanceSignMask vertexIndex0)
              (fetchCullDistanceSignMask vertexIndex1) (fetchCullDistanceSignMask vertexIndex2))) := by
  unfold doCulling
  cases ctrl.enableCulling
  · rfl
  · simp only [Bool.not_true, Bool.false_eq_true, if_false, Bool.true_and, gate_false, gate_eq_or,
      doCullDistanceCulling_true, doSmallPrimFilterCulling_true, doSphereCulling_true, doBoxFilterCulling_true,
      doFrustumCulling_true, Bool.or_assoc]

end Verdict

end NggPrimShader.Cull.Chain
