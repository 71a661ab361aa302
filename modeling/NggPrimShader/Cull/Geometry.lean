import Mathlib
import NggPrimShader.Basic

/-! Positions as the cullers read them, exactly over an ordered field (the
cullers' float and fp16 rounding is not modelled), and the triangle as the
convex combinations of its three vertices. -/
namespace NggPrimShader.Cull.Geometry

structure Vertex (α : Type) where
  x : α
  y : α
  z : α
  w : α

/-- The weights of a point of a triangle: nonnegative and summing to one. -/
structure ConvexWeights (α : Type) [LinearOrderedField α] where
  a : α
  b : α
  c : α
  a_nonneg : 0 ≤ a
  b_nonneg : 0 ≤ b
  c_nonneg : 0 ≤ c
  sum_eq : a + b + c = 1

variable {α : Type} [LinearOrderedField α]

def ConvexWeights.first : ConvexWeights α :=
  ⟨1, 0, 0, zero_le_one, le_rfl, le_rfl, by ring⟩

def ConvexWeights.point (wt : ConvexWeights α) (v0 v1 v2 : Vertex α) : Vertex α :=
  ⟨wt.a * v0.x + wt.b * v1.x + wt.c * v2.x, wt.a * v0.y + wt.b * v1.y + wt.c * v2.y,
    wt.a * v0.z + wt.b * v1.z + wt.c * v2.z, wt.a * v0.w + wt.b * v1.w + wt.c * v2.w⟩

@[simp] theorem ConvexWeights.first_point (v0 v1 v2 : Vertex α) :
    (ConvexWeights.first : ConvexWeights α).point v0 v1 v2 = v0 := by
  simp [ConvexWeights.first, ConvexWeights.point]

def Vertex.dot (c v : Vertex α) : α := c.x * v.x + c.y * v.y + c.z * v.z + c.w * v.w

theorem ConvexWeights.dot_point (wt : ConvexWeights α) (c v0 v1 v2 : Vertex α) :
    c.dot (wt.point v0 v1 v2) = wt.a * c.dot v0 + wt.b * c.dot v1 + wt.c * c.dot v2 := by
  simp only [Vertex.dot, ConvexWeights.point]
  ring

theorem ConvexWeights.combination_le (wt : ConvexWeights α) {u0 u1 u2 M : α} (h0 : u0 ≤ M) (h1 : u1 ≤ M)
    (h2 : u2 ≤ M) : wt.a * u0 + wt.b * u1 + wt.c * u2 ≤ M := calc
  wt.a * u0 + wt.b * u1 + wt.c * u2 ≤ wt.a * M + wt.b * M + wt.c * M :=
      add_le_add (add_le_add (mul_le_mul_of_nonneg_left h0 wt.a_nonneg) (mul_le_mul_of_nonneg_left h1 wt.b_nonneg))
        (mul_le_mul_of_nonneg_left h2 wt.c_nonneg)
  _ = M := by rw [← add_mul, ← add_mul, wt.sum_eq, one_mul]

theorem ConvexWeights.le_combination (wt : ConvexWeights α) {u0 u1 u2 m : α} (h0 : m ≤ u0) (h1 : m ≤ u1)
    (h2 : m ≤ u2) : m ≤ wt.a * u0 + wt.b * u1 + wt.c * u2 := by
  have := wt.combination_le (neg_le_neg h0) (neg_le_neg h1) (neg_le_neg h2)
  rw [mul_neg, mul_neg, mul_neg, ← neg_add, ← neg_add] at this
  exact neg_le_neg_iff.mp this

theorem ConvexWeights.dot_point_neg (wt : ConvexWeights α) {c v0 v1 v2 : Vertex α}
    (h0 : c.dot v0 < 0) (h1 : c.dot v1 < 0) (h2 : c.dot v2 < 0) : c.dot (wt.point v0 v1 v2) < 0 := calc
  c.dot (wt.point v0 v1 v2) = wt.a * c.dot v0 + wt.b * c.dot v1 + wt.c * c.dot v2 := wt.dot_point c v0 v1 v2
  _ ≤ max (c.dot v0) (max (c.dot v1) (c.dot v2)) := wt.combination_le (le_max_left _ _)
      ((le_max_left _ _).trans (le_max_right _ _)) ((le_max_right _ _).trans (le_max_right _ _))
  _ < 0 := max_lt h0 (max_lt h1 h2)

theorem ConvexWeights.bounds (wt : ConvexWeights α) (u0 u1 u2 : α) :
    min (min u0 u1) u2 ≤ wt.a * u0 + wt.b * u1 + wt.c * u2 ∧
      wt.a * u0 + wt.b * u1 + wt.c * u2 ≤ max (max u0 u1) u2 :=
  ⟨wt.le_combination ((min_le_left _ _).trans (min_le_left _ _)) ((min_le_left _ _).trans (min_le_right _ _))
      (min_le_right _ _),
    wt.combination_le ((le_max_left _ _).trans (le_max_left _ _)) ((le_max_right _ _).trans (le_max_left _ _))
      (le_max_right _ _)⟩

end NggPrimShader.Cull.Geometry
