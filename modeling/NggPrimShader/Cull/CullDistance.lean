import Mathlib
import NggPrimShader.Es.CullInfo
import NggPrimShader.Xfb.GsStaging

/-! Cull-distance culling. Each vertex contributes a mask whose bit `i` is the
sign bit of its cull distance `i`, and the culler culls when one bit is set in
all three masks. With API GS the masks are built from the distances read back
from the GS-VS ring, which are the ones the GS emitted. Without API GS the
masks are never built: `.writeVertCullData` extracts the distances from the
function-scope `cullData`, which `.fetchVertCullData` shadows and leaves
`nullptr`. A set sign bit also marks `-0.0`, which is not negative. -/
namespace NggPrimShader.Cull.CullDistance

open NggPrimShader.Basic NggPrimShader.Gs.EmitCut NggPrimShader.Gs.PrimData NggPrimShader.Es.CullInfo
  NggPrimShader.Xfb.Reservation NggPrimShader.Xfb.GsStaging

namespace Binary32

def exponent (bits : Nat) : Nat := createUBfe bits 23 8

def mantissa (bits : Nat) : Nat := createUBfe bits 0 23

def IsNaN (bits : Nat) : Prop := exponent bits = 0xFF ∧ mantissa bits ≠ 0

instance (bits : Nat) : Decidable (IsNaN bits) := inferInstanceAs (Decidable (_ ∧ _))

/-- `fcmp olt x, 0.0`: not a NaN, the sign bit set, and not a zero. -/
def IsNegative (bits : Nat) : Prop :=
  ¬IsNaN bits ∧ bits.testBit 31 ∧ (exponent bits ≠ 0 ∨ mantissa bits ≠ 0)

instance (bits : Nat) : Decidable (IsNegative bits) := inferInstanceAs (Decidable (_ ∧ _))

def magnitude (bits : Nat) : ℚ :=
  if exponent bits = 0 then (mantissa bits : ℚ) / 2 ^ 149
  else (2 ^ 23 + mantissa bits : ℚ) * 2 ^ exponent bits / 2 ^ 150

def toRat (bits : Nat) : ℚ := (if bits.testBit 31 then -1 else 1) * magnitude bits

theorem magnitude_nonneg (bits : Nat) : 0 ≤ magnitude bits := by
  unfold magnitude
  split_ifs <;> positivity

theorem magnitude_pos_iff (bits : Nat) : 0 < magnitude bits ↔ exponent bits ≠ 0 ∨ mantissa bits ≠ 0 := by
  unfold magnitude
  split_ifs with he
  · simp [he, Nat.pos_iff_ne_zero]
  · simp only [he, ne_eq, not_false_eq_true, true_or, iff_true]
    positivity

theorem toRat_neg_iff {bits : Nat} (hfin : exponent bits < 0xFF) : toRat bits < 0 ↔ IsNegative bits := by
  have hnan : ¬IsNaN bits := fun h => Nat.ne_of_lt hfin h.1
  unfold toRat IsNegative
  by_cases hs : bits.testBit 31
  · rw [if_pos hs, neg_one_mul, neg_neg_iff_pos, magnitude_pos_iff]
    exact ⟨fun h => ⟨hnan, hs, h⟩, fun h => h.2.2⟩
  · rw [if_neg hs, one_mul]
    exact ⟨fun h => absurd h (not_lt.mpr (magnitude_nonneg bits)), fun h => absurd h.2.1 hs⟩

theorem testBit_31_iff {bits : Nat} (hb : bits < 2 ^ 32) (hnan : ¬IsNaN bits) :
    bits.testBit 31 ↔ IsNegative bits ∨ bits = 0x80000000 := by
  unfold IsNegative exponent mantissa
  simp only [createUBfe_eq, Nat.testBit_to_div_mod, decide_eq_true_eq]
  constructor
  · intro h
    by_cases hz : bits / 2 ^ 23 % 2 ^ 8 ≠ 0 ∨ bits % 2 ^ 23 ≠ 0
    · exact .inl ⟨hnan, by simpa [Nat.testBit_to_div_mod] using h, by simpa using hz⟩
    · right; omega
  · rintro (⟨-, h, -⟩ | rfl)
    · simpa [Nat.testBit_to_div_mod] using h
    · norm_num

end Binary32

def cullDistanceSignMask (cullDistance : List Nat) : Nat :=
  (List.range cullDistance.length).foldl
    (fun signMask i => signMask ||| createUBfe (cullDistance.getD i 0) 31 1 <<< i) 0

/-- `createCullDistanceCuller`: cull when `signMask0 & signMask1 & signMask2 != 0`. -/
def cullDistanceCuller (cullFlag : Bool) (signMask0 signMask1 signMask2 : Nat) : Bool :=
  if cullFlag then true else (signMask0 &&& signMask1 &&& signMask2) != 0

theorem createUBfe_one (value offset : Nat) : createUBfe value offset 1 = (value.testBit offset).toNat := by
  rw [createUBfe_eq, Nat.testBit_to_div_mod]
  rcases Nat.mod_two_eq_zero_or_one (value / 2 ^ offset) with h | h <;> simp [h]

theorem testBit_foldl_signMask (cullDistance : List Nat) (n j : Nat) :
    ((List.range n).foldl (fun signMask i => signMask ||| createUBfe (cullDistance.getD i 0) 31 1 <<< i) 0).testBit j =
      (decide (j < n) && (cullDistance.getD j 0).testBit 31) := by
  induction n with
  | zero => simp
  | succ n ih =>
    rw [List.range_succ, List.foldl_append, List.foldl_cons, List.foldl_nil, Nat.testBit_or, ih, createUBfe_one]
    by_cases hn : j = n
    · subst hn
      cases (cullDistance.getD j 0).testBit 31 <;> simp [Nat.one_shiftLeft, Nat.testBit_two_pow]
    · have : (j < n + 1) = (j < n) := propext (by omega)
      cases (cullDistance.getD n 0).testBit 31 <;>
        simp [this, Nat.one_shiftLeft, Nat.testBit_two_pow, Ne.symm hn]

theorem testBit_cullDistanceSignMask (cullDistance : List Nat) (j : Nat) :
    (cullDistanceSignMask cullDistance).testBit j =
      (decide (j < cullDistance.length) && (cullDistance.getD j 0).testBit 31) :=
  testBit_foldl_signMask cullDistance _ j

theorem cullDistanceCuller_iff {d0 d1 d2 : List Nat} :
    cullDistanceCuller false (cullDistanceSignMask d0) (cullDistanceSignMask d1) (cullDistanceSignMask d2) ↔
      ∃ i, (i < d0.length ∧ (d0.getD i 0).testBit 31) ∧ (i < d1.length ∧ (d1.getD i 0).testBit 31) ∧
        (i < d2.length ∧ (d2.getD i 0).testBit 31) := by
  simp only [cullDistanceCuller, Bool.false_eq_true, if_false, bne_iff_ne, ne_eq]
  constructor
  · intro h
    obtain ⟨i, hi⟩ := Nat.ne_zero_implies_bit_true h
    simp only [Nat.testBit_and, testBit_cullDistanceSignMask, Bool.and_eq_true, decide_eq_true_eq] at hi
    exact ⟨i, hi.1.1, hi.1.2, hi.2⟩
  · rintro ⟨i, h0, h1, h2⟩ hz
    have := congrArg (Nat.testBit · i) hz
    simp only [Nat.testBit_and, testBit_cullDistanceSignMask, h0.1, h1.1, h2.1, h0.2, h1.2, h2.2, decide_True,
      Bool.and_self, Nat.zero_testBit, Bool.true_eq_false] at this

/-- For distances that are not NaN, the culler culls exactly when some distance
index is negative, or `-0.0`, at all three vertices. -/
theorem cullDistanceCuller_iff_negative {n : Nat} {d0 d1 d2 : List Nat} (h0 : d0.length = n)
    (h1 : d1.length = n) (h2 : d2.length = n)
    (hbits : ∀ d ∈ [d0, d1, d2], ∀ b ∈ d, b < 2 ^ 32 ∧ ¬Binary32.IsNaN b) :
    cullDistanceCuller false (cullDistanceSignMask d0) (cullDistanceSignMask d1) (cullDistanceSignMask d2) ↔
      ∃ i < n, ∀ d ∈ [d0, d1, d2], Binary32.IsNegative (d.getD i 0) ∨ d.getD i 0 = 0x80000000 := by
  have hsign : ∀ d ∈ [d0, d1, d2], ∀ i < n,
      ((d.getD i 0).testBit 31 ↔ Binary32.IsNegative (d.getD i 0) ∨ d.getD i 0 = 0x80000000) := by
    intro d hd i hi
    have hlen : i < d.length := by
      simp only [List.mem_cons, List.mem_singleton, List.not_mem_nil, or_false] at hd
      rcases hd with rfl | rfl | rfl <;> omega
    have hmem : d.getD i 0 ∈ d := by rw [List.getD_eq_getElem _ _ hlen]; exact List.getElem_mem hlen
    exact Binary32.testBit_31_iff (hbits d hd _ hmem).1 (hbits d hd _ hmem).2
  rw [cullDistanceCuller_iff]
  constructor
  · rintro ⟨i, ⟨hi, s0⟩, ⟨-, s1⟩, ⟨-, s2⟩⟩
    refine ⟨i, h0 ▸ hi, fun d hd => ?_⟩
    simp only [List.mem_cons, List.mem_singleton, List.not_mem_nil, or_false] at hd
    rcases hd with rfl | rfl | rfl
    exacts [(hsign _ (by simp) i (h0 ▸ hi)).mp s0, (hsign _ (by simp) i (h0 ▸ hi)).mp s1,
      (hsign _ (by simp) i (h0 ▸ hi)).mp s2]
  · rintro ⟨i, hi, h⟩
    exact ⟨i, ⟨h0 ▸ hi, (hsign _ (by simp) i hi).mpr (h _ (by simp))⟩,
      ⟨h1 ▸ hi, (hsign _ (by simp) i hi).mpr (h _ (by simp))⟩,
      ⟨h2 ▸ hi, (hsign _ (by simp) i hi).mpr (h _ (by simp))⟩⟩

theorem cullDistanceCuller_iff_negative_one :
    (cullDistanceCuller false (cullDistanceSignMask [0xBF800000]) (cullDistanceSignMask [0xBF800000])
      (cullDistanceSignMask [0xBF800000]) ↔
      ∃ i < 1, ∀ d ∈ [[0xBF800000], [0xBF800000], [0xBF800000]],
        Binary32.IsNegative (d.getD i 0) ∨ d.getD i 0 = 0x80000000) :=
  cullDistanceCuller_iff_negative rfl rfl rfl (by decide)

/-- `fetchCullDistanceSignMask`. Without API GS, the mask `.writeVertCullData`
stored in the vertex's cull info. With API GS, the mask of the
`cullDistanceCount` floats at location `loc` (`builtInOutputLocMap[BuiltInCullDistance]`)
of the raster-stream vertex in the GS-VS ring. -/
def fetchCullDistanceSignMask (hasGs : Bool) (cfg : PipelineConfig) (mode : GeometryShaderMode) (ring : GsVsRing)
    (rasterStream : StreamId) (loc cullDistanceCount : Nat) (lds : Nat → Nat) (vertexIndex : Nat) : Nat :=
  if hasGs then
    cullDistanceSignMask (importGsOutput lds cullDistanceCount loc
      (ring.calcVertexItemOffset mode.outputVertices rasterStream vertexIndex))
  else lds (cullInfoAddr cfg vertexIndex .cullDistanceSignMask)

theorem fetchCullDistanceSignMask_withGs {cfg : PipelineConfig} {mode : GeometryShaderMode} {ring : GsVsRing}
    {rasterStream : StreamId} {enableSwXfb : Bool} {ws : WaveSize} {primCountInWave : Nat → Nat}
    {msgsOf : Nat → List GsMessage} {primCountInSubgroup : Nat}
    (hfit : GsFits mode ws primCountInWave msgsOf primCountInSubgroup)
    (hring : ∀ t < NggMaxThreadsPerSubgroup, gsRuns ws primCountInWave t → t < ring.gsPrimsPerSubgroup)
    {gsOutput : Nat → StreamId → Nat → Nat → List Nat} (hlen : ∀ t s e loc, (gsOutput t s e loc).length ≤ 4)
    (lds : Nat → Nat) {order : List (Nat × Nat)}
    (horder : order.Perm (gsOutputStores mode ring rasterStream enableSwXfb ws primCountInWave msgsOf gsOutput))
    {t : Nat} (ht : t < NggMaxThreadsPerSubgroup) (hrun : gsRuns ws primCountInWave t) {e : Nat}
    (he : e < (msgsOf t).count (.emit rasterStream)) {loc : Nat} (hloc : loc < ring.outLocCount rasterStream)
    {cullDistanceCount : Nat} (hn : cullDistanceCount ≤ (gsOutput t rasterStream e loc).length) :
    fetchCullDistanceSignMask true cfg mode ring rasterStream loc cullDistanceCount (runStores lds order)
        (t * mode.outputVertices + e) =
      cullDistanceSignMask ((gsOutput t rasterStream e loc).take cullDistanceCount) := by
  rw [fetchCullDistanceSignMask, if_pos rfl, importGsOutput_gsOutputStores hfit hring hlen lds horder ht hrun
    (by simp [isHandledStream]) he hloc hn]

structure CullData where
  position : List Nat
  cullDistance : List Nat

/-- `CreateExtractValue(cullData, 1)` on the builder value `cullData`; the
builder faults (`none`) on `nullptr`. -/
def extractCullDistance (cullData : Option CullData) : Option (List Nat) :=
  cullData.map CullData.cullDistance

def writeVertCullDataSignMask (cullData : Option CullData) : Option Nat :=
  (extractCullDistance cullData).map cullDistanceSignMask

/-- The `cullData` in scope at `.writeVertCullData`: `buildPrimShader` declares
`Value *cullData = nullptr` at function scope, and `.fetchVertCullData` stores
`runPartEs(args)` into a block-local `auto cullData` that shadows it, using it
only for `position`. -/
def buildPrimShaderCullData (_fetched : CullData) : Option CullData := none

/-- Two ways the cull-distance stage departs from "cull iff some distance is
negative at all three vertices". Without API GS, `buildPrimShader` extracts the
distances from the null `cullData`, whatever the fetcher returned, so the mask
is never built. With API GS, a GS-VS ring holding `-0.0` (`0x80000000`) as
every vertex's single cull distance makes the stage cull, although `-0.0` is
not negative (its value is 0). -/
theorem cullDistance_stage_diverges (cfg : PipelineConfig) (mode : GeometryShaderMode) (ring : GsVsRing)
    (rasterStream : StreamId) (loc vertexIndex0 vertexIndex1 vertexIndex2 : Nat) :
    (∀ fetched : CullData, writeVertCullDataSignMask (buildPrimShaderCullData fetched) = none) ∧
      (cullDistanceCuller false
        (fetchCullDistanceSignMask true cfg mode ring rasterStream loc 1 (fun _ => 0x80000000) vertexIndex0)
        (fetchCullDistanceSignMask true cfg mode ring rasterStream loc 1 (fun _ => 0x80000000) vertexIndex1)
        (fetchCullDistanceSignMask true cfg mode ring rasterStream loc 1 (fun _ => 0x80000000) vertexIndex2) ∧
      ¬Binary32.IsNegative 0x80000000 ∧ Binary32.toRat 0x80000000 = 0) := by
  have hmask : cullDistanceSignMask [0x80000000] = 1 := by decide
  refine ⟨fun _ => rfl, ?_, by decide, ?_⟩
  · simp [fetchCullDistanceSignMask, importGsOutput, readValueFromLds, hmask, cullDistanceCuller]
  · simp [Binary32.toRat, Binary32.magnitude, Binary32.exponent, Binary32.mantissa]

end NggPrimShader.Cull.CullDistance
