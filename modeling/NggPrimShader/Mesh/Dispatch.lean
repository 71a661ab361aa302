import NggPrimShader.Basic
import Mathlib.Data.Nat.ModEq
import Mathlib.Tactic.Ring

/-! From task workgroups to mesh workgroups. A task workgroup writes its draw
data, the mesh group counts and a ready bit, to the entry of the task draw data
ring that its flat workgroup ID selects after the base ring entry index; the
ring has a power-of-two number of entries, so the entry is the index masked with
`numRingEntries - 1`, and the ready bit is the index's bit `numRingEntries`,
which flips on every lap of the ring. A mesh workgroup before GFX11 reads its
flat workgroup ID and splits it back into `(x, y, z)` with the dispatch
dimensions, and splits its local invocation index the same way. The split
inverts the flattening on the whole dispatch; distinct task workgroups of a
dispatch no larger than the ring write distinct entries; an entry's ready bit
differs from the one the same entry held a lap before; and a zero group count
always shows in X. -/
namespace NggPrimShader.Mesh.Dispatch

@[ext] structure Vec3 where
  x : Nat
  y : Nat
  z : Nat
  deriving DecidableEq, Repr

/-- The flat workgroup ID of `getShaderRingEntryIndex`:
`(workgroupId.z * dispatchDims.y + workgroupId.y) * dispatchDims.x + workgroupId.x`. -/
def flatWorkgroupId (workgroupId dispatchDims : Vec3) : Nat :=
  (workgroupId.z * dispatchDims.y + workgroupId.y) * dispatchDims.x + workgroupId.x

def shaderRingEntryIndex (baseRingEntryIndex : Nat) (workgroupId dispatchDims : Vec3) : Nat :=
  baseRingEntryIndex + flatWorkgroupId workgroupId dispatchDims

def wrappedRingEntryIndex (ringEntryIndex numRingEntries : Nat) : Nat := ringEntryIndex &&& (numRingEntries - 1)

def ringEntryOffset (ringEntryIndex numRecords ringEntrySize : Nat) : Nat :=
  let numRingEntries := numRecords / ringEntrySize
  wrappedRingEntryIndex ringEntryIndex numRingEntries * ringEntrySize

def drawDataReadyBit (ringEntryIndex numRecords drawDataRingEntrySize : Nat) : Bool :=
  let numDrawDataRingEntries := numRecords / drawDataRingEntrySize
  ringEntryIndex &&& numDrawDataRingEntries != 0

/-- The draw data `emitTaskMeshs` stores: `<groupCountX, groupCountY,
groupCountZ>` at byte 0, X set to 0 when Y or Z is, and the ready bit's byte at
byte 12. -/
def drawData (groupCountX groupCountY groupCountZ : Nat) (readyBit : Bool) : Vec3 × Nat :=
  let groupCountX := if min groupCountY groupCountZ = 0 then 0 else groupCountX
  (⟨groupCountX, groupCountY, groupCountZ⟩, readyBit.toNat)

def splitIndex (index : Nat) (dims : Vec3) : Vec3 :=
  let dimXMulY := dims.x * dims.y
  let z := index / dimXMulY
  let diff := index - dimXMulY * z
  let y := diff / dims.x
  let x := diff - dims.x * y
  ⟨x, y, z⟩

/-- `getMeshWorkgroupId` before GFX11: the flat workgroup ID by the dispatch
dimensions. -/
def meshWorkgroupId (flatWorkgroupId : Nat) (dispatchDims : Vec3) : Vec3 := splitIndex flatWorkgroupId dispatchDims

def meshLocalInvocationId (localInvocationIndex : Nat) (workgroupSize : Vec3) : Vec3 :=
  splitIndex localInvocationIndex workgroupSize

def meshGlobalInvocationId (workgroupId workgroupSize localInvocationId : Vec3) : Vec3 :=
  ⟨workgroupId.x * workgroupSize.x + localInvocationId.x, workgroupId.y * workgroupSize.y + localInvocationId.y,
    workgroupId.z * workgroupSize.z + localInvocationId.z⟩

def Vec3.Within (v dims : Vec3) : Prop := v.x < dims.x ∧ v.y < dims.y ∧ v.z < dims.z

instance (v dims : Vec3) : Decidable (v.Within dims) :=
  inferInstanceAs (Decidable (v.x < dims.x ∧ v.y < dims.y ∧ v.z < dims.z))

def Vec3.volume (dims : Vec3) : Nat := dims.x * dims.y * dims.z

theorem flatWorkgroupId_lt {workgroupId dims : Vec3} (h : workgroupId.Within dims) :
    flatWorkgroupId workgroupId dims < dims.volume := by
  obtain ⟨x, y, z⟩ := workgroupId
  obtain ⟨dx, dy, dz⟩ := dims
  obtain ⟨hx, hy, hz⟩ := h
  simp only [flatWorkgroupId, Vec3.volume] at *
  calc (z * dy + y) * dx + x < (z * dy + y + 1) * dx := by rw [Nat.succ_mul]; omega
    _ ≤ (z * dy + dy) * dx := Nat.mul_le_mul_right dx (by omega)
    _ = (z + 1) * (dx * dy) := by ring
    _ ≤ dz * (dx * dy) := Nat.mul_le_mul_right _ hz
    _ = dx * dy * dz := by ring

theorem splitIndex_flatWorkgroupId {workgroupId dims : Vec3} (hx : workgroupId.x < dims.x) (hy : workgroupId.y < dims.y) :
    splitIndex (flatWorkgroupId workgroupId dims) dims = workgroupId := by
  obtain ⟨x, y, z⟩ := workgroupId
  obtain ⟨dx, dy, dz⟩ := dims
  simp only at hx hy
  have hxy : x + dx * y < dx * dy := calc
    x + dx * y < dx * (y + 1) := by rw [Nat.mul_succ]; omega
    _ ≤ dx * dy := Nat.mul_le_mul_left dx hy
  have hflat : flatWorkgroupId ⟨x, y, z⟩ ⟨dx, dy, dz⟩ = dx * dy * z + (x + dx * y) := by
    simp only [flatWorkgroupId]; ring
  have hz : (dx * dy * z + (x + dx * y)) / (dx * dy) = z := by
    rw [Nat.mul_add_div (by omega), Nat.div_eq_of_lt hxy, Nat.add_zero]
  have hy' : (x + dx * y) / dx = y := by
    rw [Nat.add_mul_div_left _ _ (by omega), Nat.div_eq_of_lt hx, Nat.zero_add]
  simp only [splitIndex, hflat, hz, Nat.add_sub_cancel_left, hy', Vec3.mk.injEq, and_true]
  omega

theorem flatWorkgroupId_splitIndex {index : Nat} {dims : Vec3} (hindex : index < dims.volume) :
    (splitIndex index dims).Within dims ∧ flatWorkgroupId (splitIndex index dims) dims = index := by
  obtain ⟨dx, dy, dz⟩ := dims
  simp only [Vec3.volume] at hindex
  have hxy : 0 < dx * dy := Nat.pos_of_ne_zero fun h => by simp [h] at hindex
  have hdx : 0 < dx := Nat.pos_of_mul_pos_right hxy
  -- the code's `a - b * (a / b)` is `a % b`
  have hmod : ∀ a b, a - b * (a / b) = a % b := fun a b => (Nat.mod_def a b).symm
  simp only [splitIndex, hmod]
  refine ⟨⟨Nat.mod_lt _ hdx, ?_, ?_⟩, ?_⟩
  · exact (Nat.div_lt_iff_lt_mul hdx).mpr (by rw [Nat.mul_comm dy dx]; exact Nat.mod_lt _ hxy)
  · exact (Nat.div_lt_iff_lt_mul hxy).mpr (by rwa [Nat.mul_comm])
  · calc flatWorkgroupId ⟨index % (dx * dy) % dx, index % (dx * dy) / dx, index / (dx * dy)⟩ ⟨dx, dy, dz⟩
        = dx * dy * (index / (dx * dy)) + (dx * (index % (dx * dy) / dx) + index % (dx * dy) % dx) := by
          simp only [flatWorkgroupId]; ring
      _ = index := by rw [Nat.div_add_mod, Nat.div_add_mod]

/-- A task workgroup's ID and the ID its mesh workgroups compute agree: the
mesh split inverts the task flattening on every ID of the dispatch, and every
flat ID of the dispatch comes from one of them. -/
theorem meshWorkgroupId_roundTrip (dispatchDims : Vec3) :
    (∀ workgroupId : Vec3, workgroupId.Within dispatchDims →
      meshWorkgroupId (flatWorkgroupId workgroupId dispatchDims) dispatchDims = workgroupId) ∧
    ∀ flat < dispatchDims.volume, (meshWorkgroupId flat dispatchDims).Within dispatchDims ∧
      flatWorkgroupId (meshWorkgroupId flat dispatchDims) dispatchDims = flat :=
  ⟨fun _ h => splitIndex_flatWorkgroupId h.1 h.2.1, fun _ h => flatWorkgroupId_splitIndex h⟩

theorem splitIndex_injective {dims : Vec3} {index index' : Nat} (h : index < dims.volume) (h' : index' < dims.volume)
    (heq : splitIndex index dims = splitIndex index' dims) : index = index' := by
  rw [← (flatWorkgroupId_splitIndex h).2, ← (flatWorkgroupId_splitIndex h').2, heq]

section Ring

variable {numRecords ringEntrySize k : Nat}

theorem numRingEntries_eq (hsize : 0 < ringEntrySize) (hrecords : numRecords = 2 ^ k * ringEntrySize) :
    numRecords / ringEntrySize = 2 ^ k := by
  rw [hrecords, Nat.mul_div_cancel _ hsize]

theorem ringEntryOffset_eq (hsize : 0 < ringEntrySize) (hrecords : numRecords = 2 ^ k * ringEntrySize)
    (ringEntryIndex : Nat) :
    ringEntryOffset ringEntryIndex numRecords ringEntrySize = ringEntryIndex % 2 ^ k * ringEntrySize := by
  rw [ringEntryOffset, numRingEntries_eq hsize hrecords, wrappedRingEntryIndex, Nat.and_pow_two_sub_one_eq_mod]

theorem and_two_pow_ne_zero (ringEntryIndex : Nat) :
    (ringEntryIndex &&& 2 ^ k != 0) = ringEntryIndex.testBit k := by
  have hbit : ∀ j, (ringEntryIndex &&& 2 ^ k).testBit j = (ringEntryIndex.testBit k && decide (j = k)) := fun j => by
    rw [Nat.testBit_and, Nat.testBit_two_pow]
    by_cases hj : j = k
    · subst hj; simp
    · simp [hj, Ne.symm hj]
  cases hk : ringEntryIndex.testBit k
  · have : ringEntryIndex &&& 2 ^ k = 0 := Nat.eq_of_testBit_eq fun j => by simp [hbit, hk]
    simp [this]
  · have : ringEntryIndex &&& 2 ^ k ≠ 0 := fun h0 => by
      simpa [h0, hk] using hbit k
    simp [this]

theorem drawDataReadyBit_eq (hsize : 0 < ringEntrySize) (hrecords : numRecords = 2 ^ k * ringEntrySize)
    (ringEntryIndex : Nat) :
    drawDataReadyBit ringEntryIndex numRecords ringEntrySize = decide (ringEntryIndex / 2 ^ k % 2 = 1) := by
  rw [drawDataReadyBit, numRingEntries_eq hsize hrecords, and_two_pow_ne_zero, Nat.testBit_to_div_mod]

/-- On a ring of `2^k` entries, an index's entry is the index modulo the ring
and lies inside the ring's buffer; the index a lap later has the same entry,
and the other ready bit: the bit tells a lap's draw data from the previous
lap's. -/
theorem drawDataRing_lap (hsize : 0 < ringEntrySize) (hrecords : numRecords = 2 ^ k * ringEntrySize)
    (ringEntryIndex : Nat) :
    ringEntryOffset ringEntryIndex numRecords ringEntrySize = ringEntryIndex % 2 ^ k * ringEntrySize ∧
      ringEntryOffset ringEntryIndex numRecords ringEntrySize + ringEntrySize ≤ numRecords ∧
      ringEntryOffset (ringEntryIndex + 2 ^ k) numRecords ringEntrySize =
        ringEntryOffset ringEntryIndex numRecords ringEntrySize ∧
      drawDataReadyBit (ringEntryIndex + 2 ^ k) numRecords ringEntrySize =
        !drawDataReadyBit ringEntryIndex numRecords ringEntrySize := by
  refine ⟨ringEntryOffset_eq hsize hrecords _, ?_, ?_, ?_⟩
  · rw [ringEntryOffset_eq hsize hrecords, hrecords]
    calc ringEntryIndex % 2 ^ k * ringEntrySize + ringEntrySize = (ringEntryIndex % 2 ^ k + 1) * ringEntrySize := by
          ring
      _ ≤ 2 ^ k * ringEntrySize := Nat.mul_le_mul_right _ (Nat.mod_lt _ (Nat.two_pow_pos k))
  · rw [ringEntryOffset_eq hsize hrecords, ringEntryOffset_eq hsize hrecords, Nat.add_mod_right]
  · rw [drawDataReadyBit_eq hsize hrecords, drawDataReadyBit_eq hsize hrecords,
      Nat.add_div_right _ (Nat.two_pow_pos k)]
    rcases Nat.mod_two_eq_zero_or_one (ringEntryIndex / 2 ^ k) with h | h <;> simp [Nat.add_mod, h]

theorem drawDataRing_lap_five :
    ringEntryOffset 5 64 16 = 5 % 2 ^ 2 * 16 ∧ ringEntryOffset 5 64 16 + 16 ≤ 64 ∧
      ringEntryOffset (5 + 2 ^ 2) 64 16 = ringEntryOffset 5 64 16 ∧
      drawDataReadyBit (5 + 2 ^ 2) 64 16 = !drawDataReadyBit 5 64 16 :=
  drawDataRing_lap (by norm_num) (by norm_num) 5

/-- The task workgroups of a dispatch no larger than the ring write distinct
ring entries, whatever the base ring entry index. -/
theorem ringEntryOffset_ne (hsize : 0 < ringEntrySize) (hrecords : numRecords = 2 ^ k * ringEntrySize)
    (baseRingEntryIndex : Nat) {dispatchDims workgroupId workgroupId' : Vec3} (hfit : dispatchDims.volume ≤ 2 ^ k)
    (hw : workgroupId.Within dispatchDims) (hw' : workgroupId'.Within dispatchDims) (hne : workgroupId ≠ workgroupId') :
    ringEntryOffset (shaderRingEntryIndex baseRingEntryIndex workgroupId dispatchDims) numRecords ringEntrySize ≠
      ringEntryOffset (shaderRingEntryIndex baseRingEntryIndex workgroupId' dispatchDims) numRecords ringEntrySize := by
  rw [ringEntryOffset_eq hsize hrecords, ringEntryOffset_eq hsize hrecords, shaderRingEntryIndex,
    shaderRingEntryIndex]
  intro h
  have hmod := Nat.ModEq.add_left_cancel' baseRingEntryIndex (Nat.eq_of_mul_eq_mul_right hsize h)
  have hflat := flatWorkgroupId_lt hw
  have hflat' := flatWorkgroupId_lt hw'
  have heq : flatWorkgroupId workgroupId dispatchDims = flatWorkgroupId workgroupId' dispatchDims := by
    unfold Nat.ModEq at hmod
    rwa [Nat.mod_eq_of_lt (by omega), Nat.mod_eq_of_lt (by omega)] at hmod
  exact hne (by rw [← splitIndex_flatWorkgroupId hw.1 hw.2.1, heq, splitIndex_flatWorkgroupId hw'.1 hw'.2.1])

theorem ringEntryOffset_ne_corners :
    ringEntryOffset (shaderRingEntryIndex 3 ⟨0, 0, 0⟩ ⟨2, 2, 1⟩) 64 16 ≠
      ringEntryOffset (shaderRingEntryIndex 3 ⟨1, 1, 0⟩ ⟨2, 2, 1⟩) 64 16 :=
  ringEntryOffset_ne (k := 2) (by norm_num) (by norm_num) 3 (by decide) (by decide) (by decide) (by decide)

end Ring

/-- A zero group count always shows in the X `emitTaskMeshs` stores, and the
stored counts launch as many mesh workgroups as asked. -/
theorem drawData_groupCount (groupCountX groupCountY groupCountZ : Nat) (readyBit : Bool) :
    (drawData groupCountX groupCountY groupCountZ readyBit).1.volume = groupCountX * groupCountY * groupCountZ ∧
      ((drawData groupCountX groupCountY groupCountZ readyBit).1.x = 0 ↔
        groupCountX * groupCountY * groupCountZ = 0) := by
  simp only [drawData, Vec3.volume]
  split_ifs with h
  · have : groupCountY = 0 ∨ groupCountZ = 0 := by omega
    rcases this with h0 | h0 <;> simp [h0]
  · refine ⟨rfl, ?_⟩
    simp only [Nat.mul_eq_zero]
    omega

theorem mul_add_eq_mul_add {w w' l l' s : Nat} (hl : l < s) (hl' : l' < s) (h : w * s + l = w' * s + l') :
    w = w' ∧ l = l' := by
  have hs : 0 < s := by omega
  have hw : (w * s + l) / s = w := by rw [Nat.add_comm, Nat.add_mul_div_right _ _ hs, Nat.div_eq_of_lt hl, Nat.zero_add]
  have hw' : (w' * s + l') / s = w' := by
    rw [Nat.add_comm, Nat.add_mul_div_right _ _ hs, Nat.div_eq_of_lt hl', Nat.zero_add]
  refine ⟨by rw [← hw, ← hw', h], ?_⟩
  have : w = w' := by rw [← hw, ← hw', h]
  subst this
  omega

theorem mul_add_lt {w l d s : Nat} (hw : w < d) (hl : l < s) : w * s + l < d * s := calc
  w * s + l < (w + 1) * s := by rw [Nat.succ_mul]; omega
  _ ≤ d * s := Nat.mul_le_mul_right s hw

/-- Each invocation of a dispatch, a flat workgroup ID and a local invocation
index, gets a GlobalInvocationId inside the global grid, and no other
invocation gets the same one. -/
theorem meshGlobalInvocationId_unique {dispatchDims workgroupSize : Vec3} {flat flat' tid tid' : Nat}
    (hflat : flat < dispatchDims.volume) (hflat' : flat' < dispatchDims.volume) (htid : tid < workgroupSize.volume)
    (htid' : tid' < workgroupSize.volume) :
    (meshGlobalInvocationId (meshWorkgroupId flat dispatchDims) workgroupSize
        (meshLocalInvocationId tid workgroupSize)).Within
      ⟨dispatchDims.x * workgroupSize.x, dispatchDims.y * workgroupSize.y, dispatchDims.z * workgroupSize.z⟩ ∧
    (meshGlobalInvocationId (meshWorkgroupId flat dispatchDims) workgroupSize (meshLocalInvocationId tid workgroupSize) =
        meshGlobalInvocationId (meshWorkgroupId flat' dispatchDims) workgroupSize
          (meshLocalInvocationId tid' workgroupSize) →
      flat = flat' ∧ tid = tid') := by
  obtain ⟨⟨wx, wy, wz⟩, -⟩ := flatWorkgroupId_splitIndex hflat
  obtain ⟨⟨lx, ly, lz⟩, -⟩ := flatWorkgroupId_splitIndex htid
  obtain ⟨⟨lx', ly', lz'⟩, -⟩ := flatWorkgroupId_splitIndex htid'
  refine ⟨⟨mul_add_lt wx lx, mul_add_lt wy ly, mul_add_lt wz lz⟩, fun h => ?_⟩
  simp only [meshGlobalInvocationId, Vec3.mk.injEq] at h
  obtain ⟨hx, hlx⟩ := mul_add_eq_mul_add lx lx' h.1
  obtain ⟨hy, hly⟩ := mul_add_eq_mul_add ly ly' h.2.1
  obtain ⟨hz, hlz⟩ := mul_add_eq_mul_add lz lz' h.2.2
  exact ⟨splitIndex_injective hflat hflat' (Vec3.ext hx hy hz), splitIndex_injective htid htid' (Vec3.ext hlx hly hlz)⟩

theorem meshGlobalInvocationId_unique_small :
    (meshGlobalInvocationId (meshWorkgroupId 1 ⟨2, 1, 1⟩) ⟨2, 2, 1⟩ (meshLocalInvocationId 3 ⟨2, 2, 1⟩)).Within
      ⟨2 * 2, 1 * 2, 1 * 1⟩ ∧
    (meshGlobalInvocationId (meshWorkgroupId 1 ⟨2, 1, 1⟩) ⟨2, 2, 1⟩ (meshLocalInvocationId 3 ⟨2, 2, 1⟩) =
        meshGlobalInvocationId (meshWorkgroupId 0 ⟨2, 1, 1⟩) ⟨2, 2, 1⟩ (meshLocalInvocationId 2 ⟨2, 2, 1⟩) →
      1 = 0 ∧ 3 = 2) :=
  meshGlobalInvocationId_unique (by decide) (by decide) (by decide) (by decide)

end NggPrimShader.Mesh.Dispatch
