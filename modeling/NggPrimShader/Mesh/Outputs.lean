import NggPrimShader.Basic
import Mathlib

/-! The mesh shader's outputs. Thread 0 executes `SetMeshOutputs`: it sends
GS_ALLOC_REQ with the vertex and primitive counts and writes them to LDS, where
`.writeSpecialValue` has put the sentinel `InvalidValue` in the vertex count.
After the count barrier every thread reads the counts: a sentinel still there
means `SetMeshOutputs` never ran, and thread 0 sends a dummy GS_ALLOC_REQ with
no exports; otherwise the threads export the primitives and the vertices below
the counts. With row export a thread loops over the indices
`threadIdInSubgroup + loopIndex * waveSize`, `loopIndex += numWaves`, and the
threads' loops together cover every index below the count exactly once. So a
mesh subgroup sends one GS_ALLOC_REQ, and it announces exactly what is
exported. -/
namespace NggPrimShader.Mesh.Outputs

open NggPrimShader.Basic

def InvalidValue : Nat := 0xFFFFFFFF

/-- `setMeshOutputs`: the M0 of the GS_ALLOC_REQ it sends, and the vertex and
primitive counts it writes to LDS. A zero count zeroes both, to disable
exporting. -/
def setMeshOutputs (vertexCount primitiveCount : Nat) : Nat × Nat × Nat :=
  let zeroVertexCount := vertexCount == 0
  let zeroPrimitiveCount := primitiveCount == 0
  let hasZeroCount := zeroVertexCount || zeroPrimitiveCount
  let vertexCount := if hasZeroCount then 0 else vertexCount
  let primitiveCount := if hasZeroCount then 0 else primitiveCount
  -- M0[10:0] = vertexCount, M0[22:12] = primitiveCount
  let m0 := primitiveCount <<< 12 ||| vertexCount
  (m0, vertexCount, primitiveCount)

structure CountState where
  messages : List Nat
  vertexCount : Nat
  primitiveCount : Nat
  deriving DecidableEq, Repr

def writeSpecialValue (primitiveCount : Nat) : CountState := ⟨[], InvalidValue, primitiveCount⟩

def CountState.setMeshOutputs (s : CountState) (vertexCount primitiveCount : Nat) : CountState :=
  let (m0, vertexCount, primitiveCount) := Outputs.setMeshOutputs vertexCount primitiveCount
  ⟨s.messages ++ [m0], vertexCount, primitiveCount⟩

def runApiMeshShader (primitiveCount : Nat) (calls : List (Nat × Nat)) : CountState :=
  calls.foldl (fun s call => s.setMeshOutputs call.1 call.2) (writeSpecialValue primitiveCount)

structure MeshWaves where
  waveSize : WaveSize
  numWaves : Nat
  numWaves_pos : 0 < numWaves

def MeshWaves.threads (g : MeshWaves) : List Nat := List.range (g.numWaves * g.waveSize.val)

/-- One thread's row-export loop (`.exportPrimitiveHeader`/`Body`, and the
vertex and initialization loops alike): the indices it handles from
`loopIndex` on. -/
def rowExportLoop (g : MeshWaves) (threadIdInSubgroup count loopIndex : Nat) : List Nat :=
  let index := threadIdInSubgroup + loopIndex * g.waveSize.val
  if index < count then index :: rowExportLoop g threadIdInSubgroup count (loopIndex + g.numWaves)
  else []
termination_by count - loopIndex
decreasing_by
  have := g.numWaves_pos
  have := Nat.le_mul_of_pos_right loopIndex g.waveSize.val_pos
  omega

def exportIndices (rowExport : Bool) (g : MeshWaves) (count : Nat) : List Nat :=
  if rowExport then g.threads.flatMap fun threadIdInSubgroup => rowExportLoop g threadIdInSubgroup count 0
  else g.threads.filter (· < count)

structure Exports where
  messages : List Nat
  primitives : List Nat
  vertices : List Nat
  deriving DecidableEq, Repr

def checkMeshOutputCount (rowExport : Bool) (g : MeshWaves) (vertexCount primitiveCount : Nat) : Exports :=
  if vertexCount = InvalidValue then ⟨[0], [], []⟩
  else ⟨[], exportIndices rowExport g primitiveCount, exportIndices rowExport g vertexCount⟩

/-- The subgroup from `.writeSpecialValue` to the exports: every GS_ALLOC_REQ
sent, and the primitive and vertex indices exported. -/
def meshOutputs (rowExport : Bool) (g : MeshWaves) (primitiveCount : Nat) (calls : List (Nat × Nat)) : Exports :=
  let s := runApiMeshShader primitiveCount calls
  let e := checkMeshOutputCount rowExport g s.vertexCount s.primitiveCount
  ⟨s.messages ++ e.messages, e.primitives, e.vertices⟩

section RowExport

variable (g : MeshWaves)

theorem mem_rowExportLoop (threadIdInSubgroup count loopIndex i : Nat) :
    i ∈ rowExportLoop g threadIdInSubgroup count loopIndex ↔
      i < count ∧ ∃ k, i = threadIdInSubgroup + (loopIndex + k * g.numWaves) * g.waveSize.val := by
  induction loopIndex using rowExportLoop.induct g threadIdInSubgroup count with
  | case1 loopIndex index h ih =>
    rw [rowExportLoop, if_pos h, List.mem_cons, ih]
    constructor
    · rintro (rfl | ⟨hi, k, rfl⟩)
      · exact ⟨h, 0, by simp [index]⟩
      · exact ⟨hi, k + 1, by ring⟩
    · rintro ⟨hi, ⟨_ | k, rfl⟩⟩
      · left; simp [index]
      · right; exact ⟨hi, k, by ring⟩
  | case2 loopIndex index h =>
    rw [rowExportLoop, if_neg h]
    simp only [List.not_mem_nil, false_iff, not_and, not_exists]
    intro hi k hk
    have : index ≤ i := by rw [hk]; simp only [index]; gcongr; omega
    omega

theorem rowExportLoop_pairwise (threadIdInSubgroup count loopIndex : Nat) :
    (rowExportLoop g threadIdInSubgroup count loopIndex).Pairwise (· < ·) := by
  induction loopIndex using rowExportLoop.induct g threadIdInSubgroup count with
  | case1 loopIndex index h ih =>
    rw [rowExportLoop, if_pos h, List.pairwise_cons]
    refine ⟨fun i hi => ?_, ih⟩
    obtain ⟨-, k, rfl⟩ := (mem_rowExportLoop g _ _ _ _).mp hi
    have hlt : loopIndex < loopIndex + g.numWaves + k * g.numWaves := by have := g.numWaves_pos; omega
    exact Nat.add_lt_add_left (Nat.mul_lt_mul_of_pos_right hlt g.waveSize.val_pos) _
  | case2 loopIndex index h =>
    rw [rowExportLoop, if_neg h]
    exact List.Pairwise.nil

theorem mem_rowExportLoop_zero {threadIdInSubgroup : Nat} (ht : threadIdInSubgroup < g.numWaves * g.waveSize.val)
    (count i : Nat) :
    i ∈ rowExportLoop g threadIdInSubgroup count 0 ↔
      i < count ∧ i % (g.numWaves * g.waveSize.val) = threadIdInSubgroup := by
  rw [mem_rowExportLoop, and_congr_right_iff]
  intro _
  constructor
  · rintro ⟨k, rfl⟩
    rw [Nat.zero_add, Nat.mul_assoc, Nat.add_mul_mod_self_right, Nat.mod_eq_of_lt ht]
  · intro hi
    exact ⟨i / (g.numWaves * g.waveSize.val), by rw [Nat.zero_add, Nat.mul_assoc, ← hi, Nat.mod_add_div']⟩

/-- With row export, the threads' loops handle every index below `count`
exactly once, whatever `count` is. -/
theorem rowExport_perm_range (count : Nat) :
    (g.threads.flatMap fun threadIdInSubgroup => rowExportLoop g threadIdInSubgroup count 0).Perm
      (List.range count) := by
  have hS : 0 < g.numWaves * g.waveSize.val := Nat.mul_pos g.numWaves_pos g.waveSize.val_pos
  have hnodup : (g.threads.flatMap fun threadIdInSubgroup => rowExportLoop g threadIdInSubgroup count 0).Nodup := by
    rw [List.nodup_flatMap]
    refine ⟨fun t _ => (rowExportLoop_pairwise g t count 0).imp ne_of_lt, ?_⟩
    -- two threads' loops are disjoint: their indices leave different residues
    refine List.Pairwise.imp_of_mem (fun {a b} ha hb hab i hia hib => ?_) (List.pairwise_lt_range _)
    rw [MeshWaves.threads, List.mem_range] at ha hb
    have := ((mem_rowExportLoop_zero g ha count i).mp hia).2
    have := ((mem_rowExportLoop_zero g hb count i).mp hib).2
    omega
  rw [List.perm_ext_iff_of_nodup hnodup (List.nodup_range count)]
  intro i
  simp only [List.mem_flatMap, MeshWaves.threads, List.mem_range]
  constructor
  · rintro ⟨t, ht, hi⟩
    exact ((mem_rowExportLoop_zero g ht count i).mp hi).1
  · intro hi
    exact ⟨_, Nat.mod_lt _ hS, (mem_rowExportLoop_zero g (Nat.mod_lt _ hS) count i).mpr ⟨hi, rfl⟩⟩

theorem exportIndices_perm_range {rowExport : Bool} {count : Nat}
    (hfit : rowExport = false → count ≤ g.numWaves * g.waveSize.val) :
    (exportIndices rowExport g count).Perm (List.range count) := by
  cases rowExport with
  | true => exact rowExport_perm_range g count
  | false =>
    rw [exportIndices, if_neg Bool.false_ne_true, MeshWaves.threads, List.perm_ext_iff_of_nodup ((List.nodup_range _).filter _)
      (List.nodup_range count)]
    intro i
    simp only [List.mem_filter, List.mem_range, decide_eq_true_eq]
    have := hfit rfl
    omega

end RowExport

theorem setMeshOutputs_eq (vertexCount primitiveCount : Nat) :
    setMeshOutputs vertexCount primitiveCount =
      if vertexCount = 0 ∨ primitiveCount = 0 then (0, 0, 0)
      else (primitiveCount <<< 12 ||| vertexCount, vertexCount, primitiveCount) := by
  unfold setMeshOutputs
  by_cases hv : vertexCount = 0 <;> by_cases hp : primitiveCount = 0 <;> simp [hv, hp]

theorem runApiMeshShader_single (primitiveCount vertexCount' primitiveCount' : Nat) :
    ∃ v p, runApiMeshShader primitiveCount [(vertexCount', primitiveCount')] = ⟨[p <<< 12 ||| v], v, p⟩ ∧
      v ≤ vertexCount' ∧ p ≤ primitiveCount' ∧ (v = 0 ↔ p = 0) := by
  by_cases h : vertexCount' = 0 ∨ primitiveCount' = 0
  · refine ⟨0, 0, ?_, by omega, by omega, Iff.rfl⟩
    simp [runApiMeshShader, CountState.setMeshOutputs, writeSpecialValue, setMeshOutputs_eq, h]
  · refine ⟨vertexCount', primitiveCount', ?_, le_rfl, le_rfl, by omega⟩
    simp [runApiMeshShader, CountState.setMeshOutputs, writeSpecialValue, setMeshOutputs_eq, h]

/-- With at most one `SetMeshOutputs` (the API's rule), counts that fit M0's
11-bit fields and, without row export, no more than the subgroup's threads:
the subgroup sends exactly one GS_ALLOC_REQ, its fields are the numbers of
vertices and primitives exported, each index below those numbers is exported
once, and the two numbers are zero together. -/
theorem meshOutputs_allocReq (g : MeshWaves) (rowExport : Bool) (primitiveCount : Nat) {calls : List (Nat × Nat)}
    (hcalls : calls.length ≤ 1) (hcounts : ∀ c ∈ calls, c.1 < 2 ^ 11 ∧ c.2 < 2 ^ 11)
    (hfit : rowExport = false → ∀ c ∈ calls, c.1 ≤ g.numWaves * g.waveSize.val ∧ c.2 ≤ g.numWaves * g.waveSize.val) :
    let e := meshOutputs rowExport g primitiveCount calls
    ∃ m0, e.messages = [m0] ∧ createUBfe m0 0 11 = e.vertices.length ∧ createUBfe m0 12 11 = e.primitives.length ∧
      e.primitives.Perm (List.range e.primitives.length) ∧ e.vertices.Perm (List.range e.vertices.length) ∧
      (e.vertices = [] ↔ e.primitives = []) := by
  rcases calls with _ | ⟨⟨vertexCount', primitiveCount'⟩, _ | ⟨c, rest⟩⟩
  · -- the sentinel is still there: the dummy message, nothing exported
    have he : meshOutputs rowExport g primitiveCount [] = ⟨[0], [], []⟩ := by
      simp only [meshOutputs, runApiMeshShader, List.foldl_nil, writeSpecialValue, checkMeshOutputCount, if_pos,
        List.nil_append]
    simp only [he]
    exact ⟨0, rfl, rfl, rfl, .nil, .nil, trivial⟩
  · intro e
    obtain ⟨hv, hp⟩ := hcounts _ (List.mem_singleton_self _)
    obtain ⟨v, p, hs, hv', hp', hz⟩ := runApiMeshShader_single primitiveCount vertexCount' primitiveCount'
    have he : e = ⟨[p <<< 12 ||| v], exportIndices rowExport g p, exportIndices rowExport g v⟩ := by
      have : v ≠ InvalidValue := by unfold InvalidValue; omega
      simp only [e, meshOutputs, hs, checkMeshOutputCount, if_neg this, List.append_nil]
    have hpv : (exportIndices rowExport g v).Perm (List.range v) :=
      exportIndices_perm_range g fun h => hv'.trans (hfit h _ (List.mem_singleton_self _)).1
    have hpp : (exportIndices rowExport g p).Perm (List.range p) :=
      exportIndices_perm_range g fun h => hp'.trans (hfit h _ (List.mem_singleton_self _)).2
    have hlv := hpv.length_eq.trans (List.length_range v)
    have hlp := hpp.length_eq.trans (List.length_range p)
    rw [he]
    refine ⟨_, rfl, ?_, ?_, by rwa [hlp], by rwa [hlv], ?_⟩
    · rw [hlv]; exact (gsAllocReqMessage_fields (by omega) (by omega)).1
    · rw [hlp]; exact (gsAllocReqMessage_fields (by omega) (by omega)).2
    · rw [← List.length_eq_zero, ← List.length_eq_zero, hlv, hlp]; exact hz
  · simp at hcalls

theorem meshOutputs_allocReq_rowExport :
    let e := meshOutputs true ⟨.wave32, 1, one_pos⟩ 5 [(3, 1)]
    ∃ m0, e.messages = [m0] ∧ createUBfe m0 0 11 = e.vertices.length ∧ createUBfe m0 12 11 = e.primitives.length ∧
      e.primitives.Perm (List.range e.primitives.length) ∧ e.vertices.Perm (List.range e.vertices.length) ∧
      (e.vertices = [] ↔ e.primitives = []) :=
  meshOutputs_allocReq _ true 5 (by decide) (by decide) (by decide)

end NggPrimShader.Mesh.Outputs
