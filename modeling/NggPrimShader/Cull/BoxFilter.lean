import NggPrimShader.Cull.Frustum

/-! The box-filter culler. It divides each vertex by its `w`, takes the
axis-aligned box of the three NDC points, and culls when the box lies beyond
one face of the discard volume. When the three `w` have one sign, each face is a
clip-space half-space that excludes all three vertices, so a culled triangle
misses the clip volume. A triangle crossing `w = 0` has no such box, and the
culler drops visible ones. -/
namespace NggPrimShader.Cull.BoxFilter

open NggPrimShader.Basic NggPrimShader.Cull.Geometry NggPrimShader.Cull.Frustum

variable {α : Type} [LinearOrderedField α]

/-- `createBoxFilterCuller`, read exactly (`minnum`/`maxnum` are `min`/`max`; a
division by zero gives 0 where the hardware gives an infinity). -/
def boxFilterCuller (cullFlag : Bool) (v0 v1 v2 : Vertex α) (paClVteCntl paClClipCntl : Nat)
    (xDiscAdj yDiscAdj : α) : Bool :=
  if cullFlag then true
  else
    let vtxXyFmt := createUBfe paClVteCntl 8 1 = 1
    let vtxZFmt := createUBfe paClVteCntl 9 1 = 1
    let zNear : α := zNearOf paClClipCntl
    let zFar : α := 1
    -- NDC
    let rcpW0ForXy : α := if vtxXyFmt then 1 else 1 / v0.w
    let rcpW1ForXy : α := if vtxXyFmt then 1 else 1 / v1.w
    let rcpW2ForXy : α := if vtxXyFmt then 1 else 1 / v2.w
    let rcpW0ForZ : α := if vtxZFmt then 1 else 1 / v0.w
    let rcpW1ForZ : α := if vtxZFmt then 1 else 1 / v1.w
    let rcpW2ForZ : α := if vtxZFmt then 1 else 1 / v2.w
    let x0 := v0.x * rcpW0ForXy
    let y0 := v0.y * rcpW0ForXy
    let z0 := v0.z * rcpW0ForZ
    let x1 := v1.x * rcpW1ForXy
    let y1 := v1.y * rcpW1ForXy
    let z1 := v1.z * rcpW1ForZ
    let x2 := v2.x * rcpW2ForXy
    let y2 := v2.y * rcpW2ForXy
    let z2 := v2.z * rcpW2ForZ
    -- The box against the discard volume
    let minXGtXDiscAdj := decide (min (min x0 x1) x2 > xDiscAdj)
    let maxXLtNegXDiscAdj := decide (max (max x0 x1) x2 < -xDiscAdj)
    let minYGtYDiscAdj := decide (min (min y0 y1) y2 > yDiscAdj)
    let maxYLtNegYDiscAdj := decide (max (max y0 y1) y2 < -yDiscAdj)
    let minZGtZFar := decide (min (min z0 z1) z2 > zFar)
    let maxZLtZNear := decide (max (max z0 z1) z2 < zNear)
    let cullX := minXGtXDiscAdj || maxXLtNegXDiscAdj
    let cullY := minYGtYDiscAdj || maxYLtNegYDiscAdj
    let cullZ := minZGtZFar || maxZLtZNear
    (cullX || cullY) || cullZ

def BeyondFace (zNear xDiscAdj yDiscAdj : α) (v : Vertex α) : Nat → Prop
  | 0 => v.x * (1 / v.w) < -xDiscAdj
  | 1 => v.x * (1 / v.w) > xDiscAdj
  | 2 => v.y * (1 / v.w) < -yDiscAdj
  | 3 => v.y * (1 / v.w) > yDiscAdj
  | 4 => v.z * (1 / v.w) < zNear
  | _ => v.z * (1 / v.w) > 1

theorem boxFilterCuller_iff {v0 v1 v2 : Vertex α} {paClVteCntl paClClipCntl : Nat} {xDiscAdj yDiscAdj : α}
    (hxy : createUBfe paClVteCntl 8 1 = 0) (hz : createUBfe paClVteCntl 9 1 = 0) :
    boxFilterCuller false v0 v1 v2 paClVteCntl paClClipCntl xDiscAdj yDiscAdj ↔
      ∃ i < 6, BeyondFace (zNearOf paClClipCntl) xDiscAdj yDiscAdj v0 i ∧
        BeyondFace (zNearOf paClClipCntl) xDiscAdj yDiscAdj v1 i ∧
        BeyondFace (zNearOf paClClipCntl) xDiscAdj yDiscAdj v2 i := by
  simp only [boxFilterCuller, hxy, hz, Bool.false_eq_true, if_false, zero_ne_one, gt_iff_lt, lt_min_iff,
    max_lt_iff, Bool.or_eq_true, decide_eq_true_eq, and_assoc]
  constructor
  · rintro (((h | h) | (h | h)) | (h | h))
    exacts [⟨1, by norm_num, h⟩, ⟨0, by norm_num, h⟩, ⟨3, by norm_num, h⟩, ⟨2, by norm_num, h⟩,
      ⟨5, by norm_num, h⟩, ⟨4, by norm_num, h⟩]
  · rintro ⟨i, hi, h⟩
    match i, hi with
    | 0, _ => exact .inl (.inl (.inr h))
    | 1, _ => exact .inl (.inl (.inl h))
    | 2, _ => exact .inl (.inr (.inr h))
    | 3, _ => exact .inl (.inr (.inl h))
    | 4, _ => exact .inr (.inr h)
    | 5, _ => exact .inr (.inl h)

theorem beyondFace_iff_dot {zNear xDiscAdj yDiscAdj : α} {v : Vertex α} (hw : 0 < v.w) {i : Nat}
    (hi : i < 6) :
    BeyondFace zNear xDiscAdj yDiscAdj v i ↔ (frustumPlane zNear xDiscAdj yDiscAdj i).dot v < 0 := by
  have below : ∀ a b : α, a * (1 / v.w) < b ↔ a < b * v.w := fun a b => by rw [mul_one_div, div_lt_iff₀ hw]
  have above : ∀ a b : α, b < a * (1 / v.w) ↔ b * v.w < a := fun a b => by rw [mul_one_div, lt_div_iff₀ hw]
  rw [← bitAt_frustumClipMask zNear xDiscAdj yDiscAdj v hi]
  match i, hi with
  | 0, _ | 1, _ | 2, _ | 3, _ | 4, _ | 5, _ =>
    simp only [BeyondFace, bitAt, decide_eq_true_eq, gt_iff_lt, below, above, one_mul]

theorem w_nonneg_of_inClipVolume {n xDiscAdj yDiscAdj : α} (hX : 0 < xDiscAdj) {p : Vertex α}
    (hp : InClipVolume n xDiscAdj yDiscAdj p) : 0 ≤ p.w :=
  have ⟨hx0, hx1, _⟩ := hp
  (mul_nonneg_iff_of_pos_left hX).mp (by linarith)

/-- What the box filter guarantees: with coordinates not pre-divided by `w` and
the three `w` of one sign, a culled triangle has no point in the clip volume
whose near bound is at or beyond the culler's `zNear`. -/
theorem boxFilterCuller_sound {v0 v1 v2 : Vertex α} {paClVteCntl paClClipCntl : Nat} {xDiscAdj yDiscAdj n : α}
    (hxy : createUBfe paClVteCntl 8 1 = 0) (hz : createUBfe paClVteCntl 9 1 = 0)
    (hw : (0 < v0.w ∧ 0 < v1.w ∧ 0 < v2.w) ∨ (v0.w < 0 ∧ v1.w < 0 ∧ v2.w < 0))
    (hX : 0 < xDiscAdj) (hn : zNearOf paClClipCntl ≤ n)
    (hcull : boxFilterCuller false v0 v1 v2 paClVteCntl paClClipCntl xDiscAdj yDiscAdj) (wt : ConvexWeights α) :
    ¬ InClipVolume n xDiscAdj yDiscAdj (wt.point v0 v1 v2) := by
  intro hp
  rcases hw with ⟨hw0, hw1, hw2⟩ | ⟨hw0, hw1, hw2⟩
  · obtain ⟨i, hi, h0, h1, h2⟩ := (boxFilterCuller_iff hxy hz).mp hcull
    exact absurd (frustumPlane_nonneg hX hn hp hi) (not_le.mpr (wt.dot_point_neg
      ((beyondFace_iff_dot hw0 hi).mp h0) ((beyondFace_iff_dot hw1 hi).mp h1) ((beyondFace_iff_dot hw2 hi).mp h2)))
  · -- every point of such a triangle has `w < 0`
    have hdot : ∀ v : Vertex α, v.w < 0 → (⟨0, 0, 0, 1⟩ : Vertex α).dot v < 0 := fun v hv => by
      simpa [Vertex.dot] using hv
    have hneg := wt.dot_point_neg (hdot v0 hw0) (hdot v1 hw1) (hdot v2 hw2)
    simp only [Vertex.dot, zero_mul, one_mul, zero_add] at hneg
    exact absurd (w_nonneg_of_inClipVolume hX hp) (not_le.mpr hneg)

theorem boxFilterCuller_sound_right :
    ¬ InClipVolume 0 (1 : ℝ) 1 (ConvexWeights.first.point ⟨2, 0, 0, 1⟩ ⟨3, 0, 0, 1⟩ ⟨2, 1, 0, 1⟩) :=
  @boxFilterCuller_sound ℝ _ _ _ _ 0 (2 ^ 19) 1 1 0 (by decide) (by decide)
    (.inl ⟨one_pos, one_pos, one_pos⟩) one_pos (zNearOf_nonpos _) (by norm_num [boxFilterCuller, zNearOf]) _

def straddleWeights : ConvexWeights α :=
  ⟨3 / 5, 2 / 5, 0, by norm_num, by norm_num, le_rfl, by norm_num⟩

/-- Two triangles the box filter culls although a point of each lies in the
clip volume the spec names (near bound −1 in OGL, 0 in DX clip space). In OGL
clip space the culler's `zNear` is 0 instead of −1, so a triangle at NDC depth
−1/2 is culled. A triangle crossing `w = 0` has NDC `x` beyond 1 at all three
vertices, yet its point `3/5·v0 + 2/5·v1 = (0, 0, 0, 1/5)` is visible. -/
theorem boxFilterCuller_culls_visible :
    (boxFilterCuller false ⟨0, 0, -1 / 2, 1⟩ ⟨1 / 2, 0, -1 / 2, 1⟩ ⟨0, 1 / 2, -1 / 2, 1⟩ 0 0 (1 : ℝ) 1 ∧
      InClipVolume (specNear 0) (1 : ℝ) 1 (ConvexWeights.first.point
        ⟨0, 0, -1 / 2, 1⟩ ⟨1 / 2, 0, -1 / 2, 1⟩ ⟨0, 1 / 2, -1 / 2, 1⟩)) ∧
    (boxFilterCuller false ⟨2, 0, 0, 1⟩ ⟨-3, 0, 0, -1⟩ ⟨2, 1 / 10, 0, 1⟩ 0 (2 ^ 19) (1 : ℝ) 1 ∧
      InClipVolume (specNear (2 ^ 19)) (1 : ℝ) 1 ((straddleWeights : ConvexWeights ℝ).point
        ⟨2, 0, 0, 1⟩ ⟨-3, 0, 0, -1⟩ ⟨2, 1 / 10, 0, 1⟩)) := by
  refine ⟨⟨?_, ?_⟩, ?_, ?_⟩ <;>
    norm_num [boxFilterCuller, zNearOf, specNear, InClipVolume, straddleWeights, ConvexWeights.first,
      ConvexWeights.point]

end NggPrimShader.Cull.BoxFilter
