import NggPrimShader.Cull.Geometry
import NggPrimShader.Cull.CullDistance

/-! The backface culler. It takes the determinant of the rows `(x, y, w)` of
the three clip-space vertices as a signed area, reads the sign that counts as
front from FACE (`PA_SU_SC_MODE_CNTL[2]`) and the sign bits of the viewport
scales, and culls the faces that CULL_FRONT / CULL_BACK select. With a nonzero
`backfaceExponent` it keeps triangles whose area is below
`10^-backfaceExponent / |w0·w1·w2|`; in wireframe mode it culls nothing.

The determinant is `w0·w1·w2` times the signed area of the projected triangle,
so for vertices in front of the eye the verdict is the projected triangle's.
Rotating the vertices leaves it unchanged, and reversing the winding, flipping
FACE or mirroring the viewport all flip which face is front. -/
namespace NggPrimShader.Cull.Backface

open NggPrimShader.Basic NggPrimShader.Cull.Geometry NggPrimShader.Cull.CullDistance

variable {α : Type} [LinearOrderedField α]

/-- The area `createBackfaceCuller` computes, expanded along the first column:
`x0·(y1·w2 − y2·w1) − x1·(y0·w2 − y2·w0) + x2·(y0·w1 − y1·w0)`. -/
def area (v0 v1 v2 : Vertex α) : α :=
  let det0 := v0.x * (v1.y * v2.w - v2.y * v1.w)
  let det1 := v1.x * (v0.y * v2.w - v2.y * v0.w)
  let det2 := v2.x * (v0.y * v1.w - v1.y * v0.w)
  det0 - det1 + det2

/-- `frontFace` of `createBackfaceCuller`: `face ^ signbit(xScale ^ yScale)`
selects `area < 0` when it is 0 and `area > 0` otherwise. -/
def frontFace (area : α) (paSuScModeCntl paClVportXscale paClVportYscale : Nat) : Bool :=
  if createUBfe paSuScModeCntl 2 1 ^^^ createUBfe (paClVportXscale ^^^ paClVportYscale) 31 1 = 0 then
    decide (area < 0)
  else decide (area > 0)

/-- `createBackfaceCuller`, read exactly (`powi(10, -backfaceExponent)` is
`10 ^ (-backfaceExponent)`; a division by zero gives 0 where the hardware gives
an infinity). The exit block's select clears the flag in wireframe mode
(`POLY_MODE = PA_SU_SC_MODE_CNTL[4:3] = 1`), also a flag passed in set. -/
def backfaceCuller (cullFlag : Bool) (v0 v1 v2 : Vertex α)
    (backfaceExponent paSuScModeCntl paClVportXscale paClVportYscale : Nat) : Bool :=
  let cullFlagPhi :=
    if cullFlag then cullFlag
    else
      let area := area v0 v1 v2
      let frontFace := frontFace area paSuScModeCntl paClVportXscale paClVportYscale
      let backFace := !frontFace
      -- CULL_FRONT = PA_SU_SC_MODE_CNTL[0], CULL_BACK = PA_SU_SC_MODE_CNTL[1]
      let cullFront := if paSuScModeCntl &&& 1 = 1 then frontFace else false
      let cullBack := if createUBfe paSuScModeCntl 1 1 = 1 then backFace else false
      let cullFlag1 := cullFront || cullBack
      if backfaceExponent ≠ 0 then
        let absW0W1W2 := |v0.w * v1.w * v2.w|
        let threshold := (10 : α) ^ (-(backfaceExponent : ℤ)) * (1 / absW0W1W2)
        cullFlag1 && decide (|area| ≥ threshold)
      else cullFlag1
  if createUBfe paSuScModeCntl 3 2 = 1 then false else cullFlagPhi

theorem backfaceCuller_true (v0 v1 v2 : Vertex α) (e c xs ys : Nat) :
    backfaceCuller true v0 v1 v2 e c xs ys = !decide (createUBfe c 3 2 = 1) := by
  simp only [backfaceCuller, if_true]
  split_ifs with h <;> simp only [h, decide_True, decide_False, Bool.not_true, Bool.not_false]

theorem area_rotate (v0 v1 v2 : Vertex α) : area v1 v2 v0 = area v0 v1 v2 := by
  simp only [area]
  ring

theorem area_swap (v0 v1 v2 : Vertex α) : area v0 v2 v1 = -area v0 v1 v2 := by
  simp only [area]
  ring

def perspectiveDivide (v : Vertex α) : Vertex α := ⟨v.x / v.w, v.y / v.w, v.z / v.w, 1⟩

theorem cofactor_mul_eq {a b c : α} (x y z : α) (ha : a ≠ 0) (hb : b ≠ 0) (hc : c ≠ 0) :
    a * b * c * (x / a * (y / b - z / c)) = x * (y * c - z * b) := by
  rw [div_sub_div _ _ hb hc, div_mul_div_comm, mul_div_assoc', div_eq_iff (mul_ne_zero ha (mul_ne_zero hb hc))]
  ring

theorem area_eq_mul_area_perspectiveDivide {v0 v1 v2 : Vertex α} (hw0 : v0.w ≠ 0) (hw1 : v1.w ≠ 0)
    (hw2 : v2.w ≠ 0) :
    area v0 v1 v2 =
      v0.w * v1.w * v2.w * area (perspectiveDivide v0) (perspectiveDivide v1) (perspectiveDivide v2) := by
  have e0 := cofactor_mul_eq v0.x v1.y v2.y hw0 hw1 hw2
  have e1 := cofactor_mul_eq v1.x v0.y v2.y hw1 hw0 hw2
  have e2 := cofactor_mul_eq v2.x v0.y v1.y hw2 hw0 hw1
  simp only [area, perspectiveDivide, mul_one]
  linear_combination -e0 + e1 - e2

theorem toNat_xor_toNat_eq_zero (a b : Bool) : a.toNat ^^^ b.toNat = 0 ↔ a = b := by
  cases a <;> cases b <;> decide

theorem frontFace_eq (area : α) (paSuScModeCntl paClVportXscale paClVportYscale : Nat) :
    frontFace area paSuScModeCntl paClVportXscale paClVportYscale =
      if paSuScModeCntl.testBit 2 = (paClVportXscale ^^^ paClVportYscale).testBit 31 then decide (area < 0)
      else decide (0 < area) := by
  simp only [frontFace, createUBfe_one, toNat_xor_toNat_eq_zero, gt_iff_lt]

theorem testBit_xor_four (c i : Nat) : (c ^^^ 4).testBit i = (c.testBit i ^^ decide (i = 2)) := by
  rw [Nat.testBit_xor, show (4 : Nat) = 2 ^ 2 from rfl, Nat.testBit_two_pow]
  cases i <;> simp [eq_comm]

theorem frontFace_neg_xor_four (area : α) (c xs ys : Nat) :
    frontFace (-area) (c ^^^ 4) xs ys = frontFace area c xs ys := by
  simp only [frontFace_eq, testBit_xor_four, decide_True, Bool.xor_true, neg_neg_iff_pos, neg_pos]
  cases c.testBit 2 <;> cases (xs ^^^ ys).testBit 31 <;> simp

theorem frontFace_mirror (area : α) (c xs ys : Nat) :
    frontFace area c (xs ^^^ 2 ^ 31) ys = frontFace area (c ^^^ 4) xs ys := by
  simp only [frontFace_eq, Nat.testBit_xor, Nat.testBit_two_pow_self, show Nat.testBit 4 2 = true by decide]
  cases c.testBit 2 <;> cases xs.testBit 31 <;> cases ys.testBit 31 <;> simp

theorem frontFace_mul_pos {k : α} (hk : 0 < k) (area : α) (c xs ys : Nat) :
    frontFace (k * area) c xs ys = frontFace area c xs ys := by
  simp only [frontFace_eq, mul_neg_iff, mul_pos_iff, hk, not_lt_of_gt hk, true_and, false_and, or_false]

theorem createUBfe_xor_four {o n : Nat} (h : 2 < o ∨ o + n ≤ 2) (c : Nat) :
    createUBfe (c ^^^ 4) o n = createUBfe c o n := by
  apply Nat.eq_of_testBit_eq
  intro i
  simp only [createUBfe, Nat.testBit_and, Nat.testBit_shiftRight, testBit_xor_four, Nat.one_shiftLeft,
    Nat.testBit_two_pow_sub_one]
  by_cases hi : i < n
  · have : o + i ≠ 2 := by omega
    simp [this]
  · simp [hi]

theorem xor_four_and_one (c : Nat) : (c ^^^ 4) &&& 1 = c &&& 1 := by
  have := createUBfe_xor_four (o := 0) (n := 1) (.inr (by decide)) c
  simpa [createUBfe] using this

theorem backfaceCuller_rotate (cullFlag : Bool) (v0 v1 v2 : Vertex α) (e c xs ys : Nat) :
    backfaceCuller cullFlag v1 v2 v0 e c xs ys = backfaceCuller cullFlag v0 v1 v2 e c xs ys := by
  have hw : v1.w * v2.w * v0.w = v0.w * v1.w * v2.w := by ring
  simp only [backfaceCuller]
  rw [area_rotate, hw]

theorem backfaceCuller_swap (cullFlag : Bool) (v0 v1 v2 : Vertex α) (e c xs ys : Nat) :
    backfaceCuller cullFlag v0 v2 v1 e c xs ys = backfaceCuller cullFlag v0 v1 v2 e (c ^^^ 4) xs ys := by
  have hw : v0.w * v2.w * v1.w = v0.w * v1.w * v2.w := by ring
  have hface : frontFace (area v0 v2 v1) c xs ys = frontFace (area v0 v1 v2) (c ^^^ 4) xs ys := by
    rw [area_swap, ← frontFace_neg_xor_four (area v0 v1 v2) (c ^^^ 4), Nat.xor_assoc, Nat.xor_self,
      Nat.xor_zero]
  simp only [backfaceCuller]
  rw [hface, hw, area_swap, abs_neg, xor_four_and_one, createUBfe_xor_four (o := 1) (n := 1) (.inr (by decide)),
    createUBfe_xor_four (o := 3) (n := 2) (.inl (by decide))]

theorem backfaceCuller_mirror (cullFlag : Bool) (v0 v1 v2 : Vertex α) (e c xs ys : Nat) :
    backfaceCuller cullFlag v0 v1 v2 e c (xs ^^^ 2 ^ 31) ys = backfaceCuller cullFlag v0 v1 v2 e (c ^^^ 4) xs ys := by
  simp only [backfaceCuller]
  rw [frontFace_mirror, xor_four_and_one, createUBfe_xor_four (o := 1) (n := 1) (.inr (by decide)),
    createUBfe_xor_four (o := 3) (n := 2) (.inl (by decide))]

/-- The verdict does not depend on which vertex of the triangle comes first,
and reversing the winding, flipping FACE and mirroring the viewport in `x` are
one and the same change. -/
theorem backfaceCuller_orientation (cullFlag : Bool) (v0 v1 v2 : Vertex α) (e c xs ys : Nat) :
    backfaceCuller cullFlag v1 v2 v0 e c xs ys = backfaceCuller cullFlag v0 v1 v2 e c xs ys ∧
      backfaceCuller cullFlag v0 v2 v1 e c xs ys = backfaceCuller cullFlag v0 v1 v2 e (c ^^^ 4) xs ys ∧
      backfaceCuller cullFlag v0 v1 v2 e c (xs ^^^ 2 ^ 31) ys = backfaceCuller cullFlag v0 v1 v2 e (c ^^^ 4) xs ys :=
  ⟨backfaceCuller_rotate .., backfaceCuller_swap .., backfaceCuller_mirror ..⟩

/-- For vertices in front of the eye and no area threshold, the verdict on the
clip-space triangle is the verdict on the projected one. -/
theorem backfaceCuller_perspectiveDivide (cullFlag : Bool) {v0 v1 v2 : Vertex α} (hw0 : 0 < v0.w)
    (hw1 : 0 < v1.w) (hw2 : 0 < v2.w) (c xs ys : Nat) :
    backfaceCuller cullFlag v0 v1 v2 0 c xs ys =
      backfaceCuller cullFlag (perspectiveDivide v0) (perspectiveDivide v1) (perspectiveDivide v2) 0 c xs ys := by
  simp only [backfaceCuller, ne_eq, not_true_eq_false, if_false]
  rw [area_eq_mul_area_perspectiveDivide hw0.ne' hw1.ne' hw2.ne', frontFace_mul_pos (by positivity)]

theorem backfaceCuller_perspectiveDivide_halved :
    (0 : ℚ) < 2 ∧ backfaceCuller false (⟨0, 0, 0, 2⟩ : Vertex ℚ) ⟨2, 0, 0, 2⟩ ⟨0, 2, 0, 2⟩ 0 2 0 0 =
      backfaceCuller false (perspectiveDivide (⟨0, 0, 0, 2⟩ : Vertex ℚ)) (perspectiveDivide ⟨2, 0, 0, 2⟩)
        (perspectiveDivide ⟨0, 2, 0, 2⟩) 0 2 0 0 :=
  ⟨two_pos, backfaceCuller_perspectiveDivide false two_pos two_pos two_pos 2 0 0⟩

end NggPrimShader.Cull.Backface
