import NggPrimShader.Cull.Geometry

/-! The frustum culler. Each vertex gets a six-bit mask of the clip half-spaces
it lies outside of, and the triangle is culled when one bit is set in all three
masks. Since every bit is a strict linear inequality, a culled triangle misses
the volume those half-spaces bound, whatever the signs of `w`. -/
namespace NggPrimShader.Cull.Frustum

open NggPrimShader.Basic NggPrimShader.Cull.Geometry

def clipMaskBits (b0 b1 b2 b3 b4 b5 : Bool) : Nat :=
  ((cond b0 0x1 0 ||| cond b1 0x2 0) ||| (cond b2 0x4 0 ||| cond b3 0x8 0)) |||
    (cond b4 0x10 0 ||| cond b5 0x20 0)

def bitAt (b0 b1 b2 b3 b4 b5 : Bool) : Nat → Bool
  | 0 => b0
  | 1 => b1
  | 2 => b2
  | 3 => b3
  | 4 => b4
  | 5 => b5
  | _ => false

theorem clipMaskBits_lt (b0 b1 b2 b3 b4 b5 : Bool) : clipMaskBits b0 b1 b2 b3 b4 b5 < 2 ^ 6 := by
  revert b0 b1 b2 b3 b4 b5
  decide

theorem testBit_clipMaskBits (b0 b1 b2 b3 b4 b5 : Bool) (i : Nat) :
    (clipMaskBits b0 b1 b2 b3 b4 b5).testBit i = bitAt b0 b1 b2 b3 b4 b5 i := by
  match i with
  | 0 | 1 | 2 | 3 | 4 | 5 =>
    revert b0 b1 b2 b3 b4 b5
    decide
  | i + 6 =>
    exact Nat.testBit_lt_two_pow (lt_of_lt_of_le (clipMaskBits_lt ..)
      (Nat.pow_le_pow_right (by omega) (by omega)))

theorem clipMaskBits_and_ne_zero {a0 a1 a2 a3 a4 a5 b0 b1 b2 b3 b4 b5 c0 c1 c2 c3 c4 c5 : Bool} :
    (clipMaskBits a0 a1 a2 a3 a4 a5 &&& clipMaskBits b0 b1 b2 b3 b4 b5 &&&
        clipMaskBits c0 c1 c2 c3 c4 c5) ≠ 0 ↔
      ∃ i < 6, bitAt a0 a1 a2 a3 a4 a5 i ∧ bitAt b0 b1 b2 b3 b4 b5 i ∧ bitAt c0 c1 c2 c3 c4 c5 i := by
  constructor
  · intro h
    obtain ⟨i, hi⟩ := Nat.ne_zero_implies_bit_true h
    simp only [Nat.testBit_and, testBit_clipMaskBits, Bool.and_eq_true] at hi
    refine ⟨i, ?_, hi.1.1, hi.1.2, hi.2⟩
    by_contra hge
    obtain ⟨j, rfl⟩ : ∃ j, i = j + 6 := ⟨i - 6, by omega⟩
    simp [bitAt] at hi
  · rintro ⟨i, -, ha, hb, hc⟩ h0
    have := congrArg (Nat.testBit · i) h0
    simp [Nat.testBit_and, testBit_clipMaskBits, ha, hb, hc] at this

variable {α : Type} [LinearOrderedField α]

def zNearOf (paClClipCntl : Nat) : α :=
  if createUBfe paClClipCntl 19 1 = 1 then -1 else 0

theorem zNearOf_nonpos (paClClipCntl : Nat) : zNearOf paClClipCntl ≤ (0 : α) := by
  unfold zNearOf
  split_ifs <;> norm_num

def frustumClipMask (zNear xDiscAdj yDiscAdj : α) (v : Vertex α) : Nat :=
  clipMaskBits (decide (v.x < -xDiscAdj * v.w)) (decide (v.x > xDiscAdj * v.w))
    (decide (v.y < -yDiscAdj * v.w)) (decide (v.y > yDiscAdj * v.w)) (decide (v.z < zNear * v.w))
    (decide (v.z > v.w))

/-- `createFrustumCuller`: cull when `clipMask0 & clipMask1 & clipMask2 != 0`. -/
def frustumCuller (cullFlag : Bool) (v0 v1 v2 : Vertex α) (paClClipCntl : Nat)
    (xDiscAdj yDiscAdj : α) : Bool :=
  if cullFlag then true
  else
    (frustumClipMask (zNearOf paClClipCntl) xDiscAdj yDiscAdj v0 &&&
        frustumClipMask (zNearOf paClClipCntl) xDiscAdj yDiscAdj v1 &&&
        frustumClipMask (zNearOf paClClipCntl) xDiscAdj yDiscAdj v2) != 0

def frustumPlane (zNear xDiscAdj yDiscAdj : α) : Nat → Vertex α
  | 0 => ⟨1, 0, 0, xDiscAdj⟩
  | 1 => ⟨-1, 0, 0, xDiscAdj⟩
  | 2 => ⟨0, 1, 0, yDiscAdj⟩
  | 3 => ⟨0, -1, 0, yDiscAdj⟩
  | 4 => ⟨0, 0, 1, -zNear⟩
  | _ => ⟨0, 0, -1, 1⟩

theorem bitAt_frustumClipMask (zNear xDiscAdj yDiscAdj : α) (v : Vertex α) {i : Nat} (hi : i < 6) :
    bitAt (decide (v.x < -xDiscAdj * v.w)) (decide (v.x > xDiscAdj * v.w))
        (decide (v.y < -yDiscAdj * v.w)) (decide (v.y > yDiscAdj * v.w)) (decide (v.z < zNear * v.w))
        (decide (v.z > v.w)) i ↔
      (frustumPlane zNear xDiscAdj yDiscAdj i).dot v < 0 := by
  match i, hi with
  | 0, _ | 1, _ | 2, _ | 3, _ | 4, _ | 5, _ =>
    simp only [bitAt, frustumPlane, Vertex.dot, decide_eq_true_eq, one_mul, zero_mul, add_zero, zero_add,
      neg_mul, zero_sub, gt_iff_lt, neg_add_eq_sub, ← sub_eq_add_neg, sub_neg, lt_neg_iff_add_neg]

def InClipVolume (n xDiscAdj yDiscAdj : α) (p : Vertex α) : Prop :=
  -xDiscAdj * p.w ≤ p.x ∧ p.x ≤ xDiscAdj * p.w ∧ -yDiscAdj * p.w ≤ p.y ∧ p.y ≤ yDiscAdj * p.w ∧
    n * p.w ≤ p.z ∧ p.z ≤ p.w

theorem frustumPlane_nonneg {zNear n xDiscAdj yDiscAdj : α} (hX : 0 < xDiscAdj) (hn : zNear ≤ n)
    {p : Vertex α} (hp : InClipVolume n xDiscAdj yDiscAdj p) {i : Nat} (hi : i < 6) :
    0 ≤ (frustumPlane zNear xDiscAdj yDiscAdj i).dot p := by
  obtain ⟨hx0, hx1, hy0, hy1, hz0, hz1⟩ := hp
  have hw : 0 ≤ p.w := (mul_nonneg_iff_of_pos_left hX).mp (by linarith)
  rw [← not_lt, ← bitAt_frustumClipMask zNear xDiscAdj yDiscAdj p hi]
  match i, hi with
  | 0, _ | 1, _ | 2, _ | 3, _ | 5, _ => simp only [bitAt, decide_eq_true_eq, gt_iff_lt, not_lt]; assumption
  | 4, _ =>
    simp only [bitAt, decide_eq_true_eq, not_lt]
    exact (mul_le_mul_of_nonneg_right hn hw).trans hz0

theorem frustumCuller_iff {v0 v1 v2 : Vertex α} {paClClipCntl : Nat} {xDiscAdj yDiscAdj : α} :
    frustumCuller false v0 v1 v2 paClClipCntl xDiscAdj yDiscAdj ↔
      ∃ i < 6, (frustumPlane (zNearOf paClClipCntl) xDiscAdj yDiscAdj i).dot v0 < 0 ∧
        (frustumPlane (zNearOf paClClipCntl) xDiscAdj yDiscAdj i).dot v1 < 0 ∧
        (frustumPlane (zNearOf paClClipCntl) xDiscAdj yDiscAdj i).dot v2 < 0 := by
  simp only [frustumCuller, frustumClipMask, Bool.false_eq_true, if_false, bne_iff_ne]
  rw [clipMaskBits_and_ne_zero]
  constructor
  · rintro ⟨i, hi, h0, h1, h2⟩
    exact ⟨i, hi, (bitAt_frustumClipMask _ _ _ _ hi).mp h0, (bitAt_frustumClipMask _ _ _ _ hi).mp h1,
      (bitAt_frustumClipMask _ _ _ _ hi).mp h2⟩
  · rintro ⟨i, hi, h0, h1, h2⟩
    exact ⟨i, hi, (bitAt_frustumClipMask _ _ _ _ hi).mpr h0, (bitAt_frustumClipMask _ _ _ _ hi).mpr h1,
      (bitAt_frustumClipMask _ _ _ _ hi).mpr h2⟩

/-- What the frustum culler guarantees: a triangle it culls has no point in the
clip volume whose near bound is at or beyond the culler's `zNear`, for any
signs of `w`. -/
theorem frustumCuller_sound {v0 v1 v2 : Vertex α} {paClClipCntl : Nat} {xDiscAdj yDiscAdj n : α}
    (hX : 0 < xDiscAdj) (hn : zNearOf paClClipCntl ≤ n)
    (hcull : frustumCuller false v0 v1 v2 paClClipCntl xDiscAdj yDiscAdj) (wt : ConvexWeights α) :
    ¬ InClipVolume n xDiscAdj yDiscAdj (wt.point v0 v1 v2) := by
  intro hp
  obtain ⟨i, hi, h0, h1, h2⟩ := frustumCuller_iff.mp hcull
  exact absurd (frustumPlane_nonneg hX hn hp hi) (not_le.mpr (wt.dot_point_neg h0 h1 h2))

theorem frustumCuller_sound_prediv :
    ¬ InClipVolume 0 (1 : ℝ) 1 (ConvexWeights.first.point
      ⟨1 / 2, 0, 0, 1 / 4⟩ ⟨1 / 2, 1 / 8, 0, 1 / 4⟩ ⟨1 / 2, 0, 1 / 8, 1 / 4⟩) :=
  frustumCuller_sound one_pos (zNearOf_nonpos (2 ^ 19))
    (frustumCuller_iff.mpr ⟨1, by norm_num, by norm_num [frustumPlane, Vertex.dot]⟩) _

/-- Modelled from the spec: the `w` a bound uses, 1 for coordinates a VTE
format bit marks as already divided by `w`. -/
def specW (fmt : Nat) (w : α) : α := if fmt = 1 then 1 else w

/-- Modelled from the spec: the near bound, −1 in OGL clip space
(`PA_CL_CLIP_CNTL[19] = 0`) and 0 in DX clip space, as the culler's comment
defines the bit. -/
def specNear (paClClipCntl : Nat) : α := if createUBfe paClClipCntl 19 1 = 1 then 0 else -1

/-- Modelled from the spec: the volume a culled triangle must miss, in the
spec's words. Coordinates that VTX_XY_FMT / VTX_Z_FMT (`PA_CL_VTE_CNTL[8]`,
`[9]`) mark as already divided by `w` are bounded with `w` taken as 1; the near
bound is −1 in OGL clip space (`PA_CL_CLIP_CNTL[19] = 0`) and 0 in DX clip
space, as the culler's comment defines the bit. -/
def InSpecClipVolume (paClVteCntl paClClipCntl : Nat) (xDiscAdj yDiscAdj : α) (p : Vertex α) : Prop :=
  -xDiscAdj * specW (createUBfe paClVteCntl 8 1) p.w ≤ p.x ∧
    p.x ≤ xDiscAdj * specW (createUBfe paClVteCntl 8 1) p.w ∧
    -yDiscAdj * specW (createUBfe paClVteCntl 8 1) p.w ≤ p.y ∧
    p.y ≤ yDiscAdj * specW (createUBfe paClVteCntl 8 1) p.w ∧
    specNear paClClipCntl * specW (createUBfe paClVteCntl 9 1) p.w ≤ p.z ∧
    p.z ≤ specW (createUBfe paClVteCntl 9 1) p.w

/-- Two triangles the frustum culler culls although a vertex lies in the spec's
volume. In OGL clip space the culler's near plane is `z = 0` instead of
`z = -w`; and with VTX_XY_FMT set it still bounds `x` by `xDiscAdj·w`. -/
theorem frustumCuller_culls_visible :
    (frustumCuller false ⟨0, 0, -1 / 2, 1⟩ ⟨1 / 2, 0, -1 / 2, 1⟩ ⟨0, 1 / 2, -1 / 2, 1⟩ 0 (1 : ℝ) 1 ∧
      InSpecClipVolume 0 0 (1 : ℝ) 1 (ConvexWeights.first.point
        ⟨0, 0, -1 / 2, 1⟩ ⟨1 / 2, 0, -1 / 2, 1⟩ ⟨0, 1 / 2, -1 / 2, 1⟩)) ∧
    (frustumCuller false ⟨1 / 2, 0, 0, 1 / 4⟩ ⟨1 / 2, 1 / 8, 0, 1 / 4⟩ ⟨1 / 2, 0, 1 / 8, 1 / 4⟩ (2 ^ 19)
        (1 : ℝ) 1 ∧
      InSpecClipVolume (2 ^ 8) (2 ^ 19) (1 : ℝ) 1 (ConvexWeights.first.point
        ⟨1 / 2, 0, 0, 1 / 4⟩ ⟨1 / 2, 1 / 8, 0, 1 / 4⟩ ⟨1 / 2, 0, 1 / 8, 1 / 4⟩)) := by
  refine ⟨⟨frustumCuller_iff.mpr ⟨4, by norm_num, ?_⟩, ?_⟩,
    ⟨frustumCuller_iff.mpr ⟨1, by norm_num, ?_⟩, ?_⟩⟩ <;>
    norm_num [frustumPlane, Vertex.dot, zNearOf, InSpecClipVolume, specW, specNear]

end NggPrimShader.Cull.Frustum
