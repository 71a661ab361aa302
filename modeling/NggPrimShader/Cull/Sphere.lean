import NggPrimShader.Cull.Frustum

/-! The sphere culler. It maps the discard volume to the cube `[-1, 1]^3`,
solves a 2×2 system for the barycentric coordinates of a point of the
triangle's plane, clamps them to the triangle, and culls when that point is
farther than `√3` from the origin. The system the code builds is not the one
for the closest point, so the culler rejects triangles that cross the cube. -/
namespace NggPrimShader.Cull.Sphere

open NggPrimShader.Basic NggPrimShader.Cull.Geometry NggPrimShader.Cull.Frustum

variable {α : Type} [LinearOrderedField α]

/-- `createSphereCuller`, read exactly (the conversions to fp16 are left out;
a division by zero gives 0 where the hardware gives an infinity). -/
def sphereCuller (cullFlag : Bool) (v0 v1 v2 : Vertex α) (paClVteCntl paClClipCntl : Nat)
    (xDiscAdj yDiscAdj : α) : Bool :=
  if cullFlag then true
  else
    let vtxXyFmt := createUBfe paClVteCntl 8 1 = 1
    let vtxZFmt := createUBfe paClVteCntl 9 1 = 1
    let zNear : α := zNearOf paClClipCntl
    -- NDC
    let rcpW0ForXy : α := if vtxXyFmt then 1 else 1 / v0.w
    let rcpW1ForXy : α := if vtxXyFmt then 1 else 1 / v1.w
    let rcpW2ForXy : α := if vtxXyFmt then 1 else 1 / v2.w
    let rcpW0ForZ : α := if vtxZFmt then 1 else 1 / v0.w
    let rcpW1ForZ : α := if vtxZFmt then 1 else 1 / v1.w
    let rcpW2ForZ : α := if vtxZFmt then 1 else 1 / v2.w
    -- Step 1: discard space to -1..1 space
    let rcpXDiscAdj := 1 / xDiscAdj
    let rcpYDiscAdj := 1 / yDiscAdj
    let x0 := v0.x * rcpW0ForXy * rcpXDiscAdj
    let y0 := v0.y * rcpW0ForXy * rcpYDiscAdj
    let x1 := v1.x * rcpW1ForXy * rcpXDiscAdj
    let y1 := v1.y * rcpW1ForXy * rcpYDiscAdj
    let x2 := v2.x * rcpW2ForXy * rcpXDiscAdj
    let y2 := v2.y * rcpW2ForXy * rcpYDiscAdj
    let z0 := (zNear + 2) * (v0.z * rcpW0ForZ) + (-1 - zNear)
    let z1 := (zNear + 2) * (v1.z * rcpW1ForZ) + (-1 - zNear)
    let z2 := (zNear + 2) * (v2.z * rcpW2ForZ) + (-1 - zNear)
    -- Step 2: barycentric coordinates
    let x20 := x2 - x0
    let y20 := y2 - y0
    let x10 := x1 - x0
    let y10 := y1 - y0
    let z20 := z2 - z0
    let z10 := z1 - z0
    -- Step 3: the linear system, by Cramer's rule
    let a00 := x10 + z10
    let a01 := x20 + z20
    let a10 := y10 + y10
    let a11 := y20 + z20
    let b0 := -x0 - x2
    let b1 := -x1 - x2
    let detA := -a01 * a10 + a00 * a11
    let detAB0 := -a01 * b1 + b0 * a11
    let detAB1 := -b0 * a10 + a00 * b1
    let rcpDetA := 1 / detA
    let s := detAB0 * rcpDetA
    let t := detAB1 * rcpDetA
    -- Step 4: clamping
    let st : α × α :=
      if s + t > 1 then (-(1 / 2) * (t - s) + 1 / 2, 1 / 2 * (t - s) + 1 / 2)
      else (min (max s 0) 1, min (max t 0) 1)
    -- Step 5: back to 3D
    let x := st.2 * x20 + (st.1 * x10 + x0)
    let y := st.2 * y20 + (st.1 * y10 + y0)
    let z := st.2 * z20 + (st.1 * z10 + z0)
    -- Steps 6 and 7
    z * z + (y * y + x * x) > 3

def ndc (paClVteCntl : Nat) (v : Vertex α) : Vertex α :=
  ⟨v.x * (if createUBfe paClVteCntl 8 1 = 1 then 1 else 1 / v.w),
    v.y * (if createUBfe paClVteCntl 8 1 = 1 then 1 else 1 / v.w),
    v.z * (if createUBfe paClVteCntl 9 1 = 1 then 1 else 1 / v.w), 1⟩

/-- The discard volume in the culler's own normalized space: `|x| ≤ xDiscAdj`,
`|y| ≤ yDiscAdj`, `zNear ≤ z ≤ 1`. -/
def InDiscardVolume (zNear xDiscAdj yDiscAdj : α) (p : Vertex α) : Prop :=
  |p.x| ≤ xDiscAdj ∧ |p.y| ≤ yDiscAdj ∧ zNear ≤ p.z ∧ p.z ≤ 1

/-- A triangle through the origin of the discard volume that the sphere
culler rejects: vertices `(0, 0, 0)`, `(-2, 0, 0)`, `(0, 0, -1)` with `w = 1`,
unit discard adjusts and DX clip space. The code's system gives `s = 1`,
`t = -2`, clamped to the vertex `(-2, 0, 0)`, at squared distance `4 > 3`. -/
theorem sphereCuller_culls_origin :
    sphereCuller false ⟨0, 0, 0, 1⟩ ⟨-2, 0, 0, 1⟩ ⟨0, 0, -1, 1⟩ 0 (2 ^ 19) (1 : ℝ) 1 ∧
      InDiscardVolume (zNearOf (2 ^ 19)) (1 : ℝ) 1
        (ConvexWeights.first.point (ndc 0 ⟨0, 0, 0, 1⟩) (ndc 0 ⟨-2, 0, 0, 1⟩) (ndc 0 ⟨0, 0, -1, 1⟩)) := by
  constructor
  · norm_num [sphereCuller, zNearOf]
  · norm_num [InDiscardVolume, ndc, zNearOf]

end NggPrimShader.Cull.Sphere
