import NggPrimShader.Cull.Geometry

/-! The small-primitive filter. It projects the three vertices to the screen,
takes each axis' extremes (clamped to the viewport widened by 0.75 pixels when
frustum culling is off), moves them out by 1/256 and rounds them with `rint`,
and culls when an axis rounds to one value while the three `w` share a sign.
Without the clamp, or with a positive viewport scale, a culled triangle covers
no pixel centre of the viewport. With a negative scale the clamp's bounds are
reversed, `fmed3` returns the wrong bound, and a covered pixel centre can be
culled. -/
namespace NggPrimShader.Cull.SmallPrimFilter

open NggPrimShader.Basic NggPrimShader.Cull.Geometry

variable {α : Type} [LinearOrderedField α]

def fmed3 (a b c : α) : α := max (min a b) (min (max a b) c)

theorem fmed3_le_max (a b c : α) : fmed3 a b c ≤ max a b :=
  max_le min_le_max (min_le_left _ _)

theorem min_le_fmed3 (a b c : α) : min b c ≤ fmed3 a b c :=
  le_max_of_le_right (min_le_min_right c (le_max_right a b))

/-- The screen point of a vertex, as the spec gives it:
`(x/w·xScale + xOffset, y/w·yScale + yOffset)`. -/
def screenPoint (xScale xOffset yScale yOffset : α) (v : Vertex α) : Vertex α :=
  ⟨v.x / v.w * xScale + xOffset, v.y / v.w * yScale + yOffset, 0, 1⟩

/-- The pixel centre `(a + 1/2, b + 1/2)` lies in the viewport rectangle, the
image of NDC `[-1, 1]²`, and in the triangle of the three screen points. -/
def CoversPixelCentre (xScale xOffset yScale yOffset : α) (v0 v1 v2 : Vertex α) (a b : ℤ) : Prop :=
  |(a : α) + 1 / 2 - xOffset| ≤ |xScale| ∧ |(b : α) + 1 / 2 - yOffset| ≤ |yScale| ∧
    ∃ wt : ConvexWeights α,
      (wt.point (screenPoint xScale xOffset yScale yOffset v0) (screenPoint xScale xOffset yScale yOffset v1)
          (screenPoint xScale xOffset yScale yOffset v2)).x = a + 1 / 2 ∧
        (wt.point (screenPoint xScale xOffset yScale yOffset v0) (screenPoint xScale xOffset yScale yOffset v1)
          (screenPoint xScale xOffset yScale yOffset v2)).y = b + 1 / 2

variable [FloorRing α]

/-- `llvm.rint` in the default round-to-nearest-even mode, read exactly: the
nearest integer, a tie going to the even one. -/
def rint (x : α) : ℤ :=
  if x - ⌊x⌋ < 1 / 2 then ⌊x⌋ else if 1 / 2 < x - ⌊x⌋ then ⌊x⌋ + 1 else ⌊x⌋ + ⌊x⌋ % 2

theorem abs_rint_sub_le (x : α) : |(rint x : α) - x| ≤ 1 / 2 := by
  have hlo : 0 ≤ x - ⌊x⌋ := sub_nonneg.mpr (Int.floor_le x)
  have hhi : x - ⌊x⌋ < 1 := sub_lt_iff_lt_add'.mpr (Int.lt_floor_add_one x)
  unfold rint
  split_ifs with h₁ h₂
  · rw [abs_sub_comm, abs_of_nonneg hlo]
    exact h₁.le
  · have h : (((⌊x⌋ + 1 : ℤ) : α) - x) = 1 - (x - ⌊x⌋) := by push_cast; ring
    rw [h, abs_of_pos (sub_pos.mpr hhi), sub_le_comm, sub_half]
    exact h₂.le
  · -- a tie: `x - ⌊x⌋ = 1/2`, and `⌊x⌋ % 2` is `0` or `1`
    have h : (((⌊x⌋ + ⌊x⌋ % 2 : ℤ) : α) - x) = ((⌊x⌋ % 2 : ℤ) : α) - (x - ⌊x⌋) := by
      push_cast; ring
    rw [h, le_antisymm (not_lt.mp h₂) (not_lt.mp h₁)]
    rcases Int.emod_two_eq_zero_or_one ⌊x⌋ with hm | hm <;> rw [hm] <;> norm_num [abs_le]

theorem rint_le_of_lt {x : α} {a : ℤ} (h : x < a + 1 / 2) : rint x ≤ a := by
  have hr : (rint x : α) < a + 1 := calc
    (rint x : α) ≤ x + 1 / 2 := sub_le_iff_le_add'.mp (abs_le.mp (abs_rint_sub_le x)).2
    _ < a + 1 / 2 + 1 / 2 := add_lt_add_right h _
    _ = a + 1 := by rw [add_assoc, add_halves]
  exact Int.lt_add_one_iff.mp (by exact_mod_cast hr)

theorem lt_rint_of_lt {x : α} {a : ℤ} (h : a + 1 / 2 < x) : a < rint x := by
  have hr : (a : α) + 1 / 2 < rint x + 1 / 2 :=
    h.trans_le (neg_le_sub_iff_le_add.mp (abs_le.mp (abs_rint_sub_le x)).1)
  exact_mod_cast lt_of_add_lt_add_right hr

theorem rint_eq_of_abs_lt {x : α} {n : ℤ} (h : |x - n| < 1 / 2) : rint x = n := by
  obtain ⟨h0, h1⟩ := abs_lt.mp h
  have hle := rint_le_of_lt (sub_lt_iff_lt_add'.mp h1)
  have hlt : n - 1 < rint x := lt_rint_of_lt <| by
    rw [show ((n - 1 : ℤ) : α) + 1 / 2 = n - 1 / 2 by push_cast; ring]
    exact sub_lt_iff_lt_add.mpr (neg_lt_sub_iff_lt_add'.mp h0)
  omega

def roundedBounds (enableFrustumCulling : Bool) (scale offset s0 s1 s2 : α) : ℤ × ℤ :=
  let screenMin := -scale + offset + -(3 / 4)
  let screenMax := scale + offset + 3 / 4
  let minS := min (min s0 s1) s2
  let minS := if enableFrustumCulling then minS else fmed3 screenMin minS screenMax
  let maxS := max (max s0 s1) s2
  let maxS := if enableFrustumCulling then maxS else fmed3 screenMin maxS screenMax
  (rint (minS + -(1 / 256)), rint (maxS + 1 / 256))

/-- `createSmallPrimFilterCuller` for `m_nggControl->enableFrustumCulling`, read
exactly. The code tests the signs of `w` on the float patterns: the sign bit of
`w0 & w1 & w2` (all negative) and `w0 | w1 | w2 > 0` as a signed integer (all
sign bits clear, not all `+0.0`). Over the reals that is `w < 0` for a set
sign bit. -/
def smallPrimFilterCuller (enableFrustumCulling cullFlag : Bool) (v0 v1 v2 : Vertex α) (paClVteCntl : Nat)
    (xScale xOffset yScale yOffset : α) (conservativeRaster : Bool) : Bool :=
  if cullFlag || conservativeRaster then cullFlag
  else
    let vtxXyFmt := createUBfe paClVteCntl 8 1 = 1
    let rcpW0 : α := if vtxXyFmt then 1 else 1 / v0.w
    let rcpW1 : α := if vtxXyFmt then 1 else 1 / v1.w
    let rcpW2 : α := if vtxXyFmt then 1 else 1 / v2.w
    let x0 := v0.x * rcpW0
    let y0 := v0.y * rcpW0
    let x1 := v1.x * rcpW1
    let y1 := v1.y * rcpW1
    let x2 := v2.x * rcpW2
    let y2 := v2.y * rcpW2
    let boundsX := roundedBounds enableFrustumCulling xScale xOffset
      (x0 * xScale + xOffset) (x1 * xScale + xOffset) (x2 * xScale + xOffset)
    let boundsY := roundedBounds enableFrustumCulling yScale yOffset
      (y0 * yScale + yOffset) (y1 * yScale + yOffset) (y2 * yScale + yOffset)
    let newCullFlag := decide (boundsX.1 = boundsX.2) || decide (boundsY.1 = boundsY.2)
    let isAllWNeg := decide (v0.w < 0 ∧ v1.w < 0 ∧ v2.w < 0)
    let isAllWPos := decide ((0 ≤ v0.w ∧ 0 ≤ v1.w ∧ 0 ≤ v2.w) ∧ ¬(v0.w = 0 ∧ v1.w = 0 ∧ v2.w = 0))
    (isAllWNeg || isAllWPos) && newCullFlag

theorem roundedBounds_lt {enableFrustumCulling : Bool} {scale offset s0 s1 s2 : α} {a : ℤ}
    (hlo : min (min s0 s1) s2 ≤ a + 1 / 2) (hhi : a + 1 / 2 ≤ max (max s0 s1) s2)
    (hclamp : enableFrustumCulling = true ∨ 0 ≤ scale ∧ |(a : α) + 1 / 2 - offset| ≤ |scale|) :
    (roundedBounds enableFrustumCulling scale offset s0 s1 s2).1 <
      (roundedBounds enableFrustumCulling scale offset s0 s1 s2).2 := by
  -- the clamped extremes still bracket the centre
  have hclamped : (if enableFrustumCulling then min (min s0 s1) s2
        else fmed3 (-scale + offset + -(3 / 4)) (min (min s0 s1) s2) (scale + offset + 3 / 4)) ≤ a + 1 / 2 ∧
      a + 1 / 2 ≤ (if enableFrustumCulling then max (max s0 s1) s2
        else fmed3 (-scale + offset + -(3 / 4)) (max (max s0 s1) s2) (scale + offset + 3 / 4)) := by
    rcases hclamp with h | ⟨hs, hc⟩
    · simp only [h, if_true]
      exact ⟨hlo, hhi⟩
    · rw [abs_of_nonneg hs, abs_le] at hc
      -- the centre lies in the widened viewport `[screenMin, screenMax]`
      have hmin : -scale + offset + -(3 / 4) ≤ a + 1 / 2 :=
        (add_le_of_le_of_nonpos le_rfl (by norm_num)).trans (le_sub_iff_add_le.mp hc.1)
      have hmax : a + 1 / 2 ≤ scale + offset + 3 / 4 :=
        (sub_le_iff_le_add.mp hc.2).trans (le_add_of_nonneg_right (by norm_num))
      split_ifs
      · exact ⟨hlo, hhi⟩
      · exact ⟨(fmed3_le_max _ _ _).trans (max_le hmin hlo), (le_min hhi hmax).trans (min_le_fmed3 _ _ _)⟩
  unfold roundedBounds
  exact (rint_le_of_lt (a := a) (add_lt_of_le_of_neg hclamped.1 (by norm_num))).trans_lt
    (lt_rint_of_lt (lt_add_of_le_of_pos hclamped.2 (by norm_num)))

/-- What the filter guarantees when the clamp is off or both viewport scales are
nonnegative: a culled triangle covers no pixel centre of the viewport. -/
theorem smallPrimFilterCuller_sound {enableFrustumCulling : Bool} {v0 v1 v2 : Vertex α} {paClVteCntl : Nat}
    {xScale xOffset yScale yOffset : α} (hxy : createUBfe paClVteCntl 8 1 = 0)
    (hscale : enableFrustumCulling = true ∨ 0 ≤ xScale ∧ 0 ≤ yScale)
    (hcull : smallPrimFilterCuller enableFrustumCulling false v0 v1 v2 paClVteCntl xScale xOffset yScale yOffset
      false) (a b : ℤ) :
    ¬ CoversPixelCentre xScale xOffset yScale yOffset v0 v1 v2 a b := by
  rintro ⟨hax, hby, wt, hx, hy⟩
  simp only [ConvexWeights.point, screenPoint] at hx hy
  have hbx := wt.bounds (v0.x / v0.w * xScale + xOffset) (v1.x / v1.w * xScale + xOffset)
    (v2.x / v2.w * xScale + xOffset)
  have hby' := wt.bounds (v0.y / v0.w * yScale + yOffset) (v1.y / v1.w * yScale + yOffset)
    (v2.y / v2.w * yScale + yOffset)
  rw [hx] at hbx
  rw [hy] at hby'
  have hX := @roundedBounds_lt α _ _ enableFrustumCulling xScale xOffset _ _ _ a hbx.1 hbx.2
    (hscale.imp_right fun h => ⟨h.1, hax⟩)
  have hY := @roundedBounds_lt α _ _ enableFrustumCulling yScale yOffset _ _ _ b hby'.1 hby'.2
    (hscale.imp_right fun h => ⟨h.2, hby⟩)
  simp only [smallPrimFilterCuller, hxy, Bool.or_false, Bool.false_eq_true, if_false, zero_ne_one,
    mul_one_div, Bool.and_eq_true, Bool.or_eq_true, decide_eq_true_eq] at hcull
  rcases hcull.2 with h | h
  · exact absurd h hX.ne
  · exact absurd h hY.ne

theorem smallPrimFilterCuller_sound_column :
    ¬ CoversPixelCentre (10 : ℝ) 10 10 10 ⟨1 / 100, 1 / 100, 0, 1⟩ ⟨1 / 50, 1 / 100, 0, 1⟩ ⟨1 / 100, 1 / 50, 0, 1⟩
      10 10 := by
  have h0 : rint ((12923 : ℝ) / 1280) = 10 := rint_eq_of_abs_lt (by norm_num [abs_lt])
  have h1 : rint ((13061 : ℝ) / 1280) = 10 := rint_eq_of_abs_lt (by norm_num [abs_lt])
  exact @smallPrimFilterCuller_sound ℝ _ _ false _ _ _ 0 _ _ _ _ (by decide)
    (.inr ⟨by norm_num, by norm_num⟩) (by norm_num [smallPrimFilterCuller, roundedBounds, fmed3, h0, h1]) 10 10

/-- With frustum culling off and a negative `yScale` (viewport `y` from 0 to
20), the filter culls a triangle whose first vertex is the pixel centre
`(10.5, 0.5)`. The clamp's bounds are `19.25` and `0.75`, so `fmed3` maps both
`y` extremes, 0.5 and 0.6, to 0.75, and `minY` and `maxY` both round to 1. -/
theorem smallPrimFilterCuller_culls_covered :
    smallPrimFilterCuller false false ⟨1 / 20, 19 / 20, 0, 1⟩ ⟨3 / 50, 19 / 20, 0, 1⟩ ⟨1 / 20, 47 / 50, 0, 1⟩ 0
        (10 : ℝ) 10 (-10) 10 false ∧
      CoversPixelCentre (10 : ℝ) 10 (-10) 10 ⟨1 / 20, 19 / 20, 0, 1⟩ ⟨3 / 50, 19 / 20, 0, 1⟩
        ⟨1 / 20, 47 / 50, 0, 1⟩ 10 0 := by
  have h0 : rint ((191 : ℝ) / 256) = 1 := rint_eq_of_abs_lt (by norm_num [abs_lt])
  have h1 : rint ((193 : ℝ) / 256) = 1 := rint_eq_of_abs_lt (by norm_num [abs_lt])
  refine ⟨by norm_num [smallPrimFilterCuller, roundedBounds, fmed3, createUBfe, h0, h1], by norm_num [abs_le],
    by norm_num [abs_le], ConvexWeights.first, ?_, ?_⟩ <;> norm_num [screenPoint]

end NggPrimShader.Cull.SmallPrimFilter
