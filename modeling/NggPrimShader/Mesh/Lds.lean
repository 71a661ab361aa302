import NggPrimShader.Mesh.Dispatch
import NggPrimShader.Mesh.Payload
import Mathlib

/-! The mesh shader's LDS. `layoutMeshShaderLds` places the regions of the
internal mesh LDS one after another: vertex count, primitive count, barrier
completion flag, the flat workgroup ID when it is emulated, primitive indices,
per-vertex outputs and per-primitive outputs; the shared variables come after
them. Every LDS access of the mesh shader names a dword of one region, at the
region's start plus an offset the code computes (`MeshLdsSlot.ldsOffset`).

The layout is proved to give every slot the code can name its own dword of the
internal mesh LDS, so that a read sees the last write to its own slot, whatever
was written to the others. -/

namespace NggPrimShader.Mesh.Lds

open NggPrimShader.Mesh.Dispatch NggPrimShader.Mesh.Payload

inductive MeshLdsRegion
  | vertexCount
  | primitiveCount
  | barrierCompletion
  | flatWorkgroupId
  | primitiveIndices
  | vertexOutput
  | primitiveOutput
  deriving DecidableEq, Repr

/-- What `layoutMeshShaderLds` reads from the pipeline state. -/
structure MeshLdsConfig where
  hasMeshStage : Bool  -- `hasShaderStage(ShaderStageMesh)`.
  gfxIpMajor : Nat  -- `getGfxIpVersion().major`.
  workgroupIdUsed : Bool  -- `builtInUsage.mesh.workgroupId`.
  globalInvocationIdUsed : Bool  -- `builtInUsage.mesh.globalInvocationId`.
  outputVertices : Nat
  outputPrimitives : Nat
  outputMapLocCount : Nat  -- `inOutUsage.outputMapLocCount`.
  perPrimitiveOutputMapLocCount : Nat  -- `inOutUsage.perPrimitiveOutputMapLocCount`.
  -- `getTypeAllocSize` of each shared variable the entry point uses.
  sharedVarSizesInBytes : List Nat
  deriving DecidableEq, Repr

def useFlatWorkgroupId (cfg : MeshLdsConfig) : Bool :=
  if cfg.gfxIpMajor ≥ 11 then false else cfg.workgroupIdUsed || cfg.globalInvocationIdUsed

abbrev MeshLdsLayout := List (MeshLdsRegion × Nat × Nat)

structure LayoutState where
  meshLdsSizeInDwords : Nat
  ldsOffsetInDwords : Nat
  ldsLayout : Option MeshLdsLayout

def LayoutState.addRegion (st : LayoutState) (region : MeshLdsRegion) (ldsRegionSize : Nat) : LayoutState :=
  match st.ldsLayout with
  | some layout =>
    { meshLdsSizeInDwords := st.meshLdsSizeInDwords + ldsRegionSize
      ldsOffsetInDwords := st.ldsOffsetInDwords + ldsRegionSize
      ldsLayout := some ((region, st.ldsOffsetInDwords, ldsRegionSize) :: layout) }
  | none => { st with meshLdsSizeInDwords := st.meshLdsSizeInDwords + ldsRegionSize }

/-- The region blocks of `layoutMeshShaderLds` in its order, with their sizes:
`vertexStride = 4 * outputMapLocCount` dwords per vertex and
`primitiveStride = 4 * perPrimitiveOutputMapLocCount` per primitive. -/
def meshLdsRegions (cfg : MeshLdsConfig) : List (MeshLdsRegion × Nat) :=
  [(.vertexCount, 1), (.primitiveCount, 1), (.barrierCompletion, 1)] ++
    (if useFlatWorkgroupId cfg then [(.flatWorkgroupId, 1)] else []) ++
    [(.primitiveIndices, cfg.outputPrimitives),
      (.vertexOutput, 4 * cfg.outputMapLocCount * cfg.outputVertices),
      (.primitiveOutput, 4 * cfg.perPrimitiveOutputMapLocCount * cfg.outputPrimitives)]

structure MeshLdsResult where
  totalSizeInDwords : Nat
  meshLdsSizeInDwords : Nat
  ldsLayout : Option MeshLdsLayout

/-- `layoutMeshShaderLds(pipelineState, entryPoint, ldsLayout)`. -/
def layoutMeshShaderLds (cfg : MeshLdsConfig) (ldsLayout : Option MeshLdsLayout) : MeshLdsResult :=
  if !cfg.hasMeshStage then ⟨0, 0, ldsLayout⟩
  else
    let st := (meshLdsRegions cfg).foldl (fun (st : LayoutState) r => st.addRegion r.1 r.2) ⟨0, 0, ldsLayout⟩
    let sharedVarLdsSizeInDwords := (cfg.sharedVarSizesInBytes.map (· / 4)).sum
    ⟨st.meshLdsSizeInDwords + sharedVarLdsSizeInDwords, st.meshLdsSizeInDwords, st.ldsLayout⟩

def regionStart (layout : MeshLdsLayout) (region : MeshLdsRegion) : Nat := ((layout.lookup region).getD (0, 0)).1

/-- A dword of the internal mesh LDS, as the mesh shader names it. -/
inductive MeshLdsSlot
  | vertexCount
  | primitiveCount
  | barrierCompletion
  | flatWorkgroupId
  | primitiveIndices (primitiveIndex : Nat)  -- The connectivity dword of a primitive.
  | vertexOutput (vertexIndex outputOffset : Nat)  -- Dword `outputOffset` of a vertex's outputs.
  -- Dword `outputOffset` of a primitive's outputs.
  | primitiveOutput (primitiveIndex outputOffset : Nat)
  deriving DecidableEq, Repr

def MeshLdsSlot.region : MeshLdsSlot → MeshLdsRegion
  | .vertexCount => .vertexCount
  | .primitiveCount => .primitiveCount
  | .barrierCompletion => .barrierCompletion
  | .flatWorkgroupId => .flatWorkgroupId
  | .primitiveIndices _ => .primitiveIndices
  | .vertexOutput _ _ => .vertexOutput
  | .primitiveOutput _ _ => .primitiveOutput

def MeshLdsSlot.offsetInRegion (cfg : MeshLdsConfig) : MeshLdsSlot → Nat
  | .primitiveIndices primitiveIndex => primitiveIndex
  | .vertexOutput vertexIndex outputOffset => vertexIndex * (4 * cfg.outputMapLocCount) + outputOffset
  | .primitiveOutput primitiveIndex outputOffset => primitiveIndex * (4 * cfg.perPrimitiveOutputMapLocCount) + outputOffset
  | _ => 0

def MeshLdsSlot.ldsOffset (layout : MeshLdsLayout) (cfg : MeshLdsConfig) (s : MeshLdsSlot) : Nat :=
  regionStart layout s.region + s.offsetInRegion cfg

/-- The slots the mesh shader can name: indices below the output counts,
output dwords inside the stride, and the flat workgroup ID only when it is kept. -/
def MeshLdsSlot.Valid (cfg : MeshLdsConfig) : MeshLdsSlot → Prop
  | .flatWorkgroupId => useFlatWorkgroupId cfg = true
  | .primitiveIndices primitiveIndex => primitiveIndex < cfg.outputPrimitives
  | .vertexOutput vertexIndex outputOffset =>
    vertexIndex < cfg.outputVertices ∧ outputOffset < 4 * cfg.outputMapLocCount
  | .primitiveOutput primitiveIndex outputOffset =>
    primitiveIndex < cfg.outputPrimitives ∧ outputOffset < 4 * cfg.perPrimitiveOutputMapLocCount
  | _ => True

instance MeshLdsSlot.decidableValid (cfg : MeshLdsConfig) : DecidablePred (MeshLdsSlot.Valid cfg)
  | .vertexCount | .primitiveCount | .barrierCompletion => inferInstanceAs (Decidable True)
  | .flatWorkgroupId => inferInstanceAs (Decidable (useFlatWorkgroupId cfg = true))
  | .primitiveIndices _ => inferInstanceAs (Decidable (_ < _))
  | .vertexOutput _ _ => inferInstanceAs (Decidable (_ ∧ _))
  | .primitiveOutput _ _ => inferInstanceAs (Decidable (_ ∧ _))

def placements (offset : Nat) : List (MeshLdsRegion × Nat) → MeshLdsLayout
  | [] => []
  | (region, size) :: rs => (region, offset, size) :: placements (offset + size) rs

theorem foldl_addRegion_size (rs : List (MeshLdsRegion × Nat)) (st : LayoutState) :
    (rs.foldl (fun (st : LayoutState) r => st.addRegion r.1 r.2) st).meshLdsSizeInDwords =
      st.meshLdsSizeInDwords + (rs.map Prod.snd).sum := by
  induction rs generalizing st with
  | nil => simp
  | cons r rs ih =>
    have hadd : (st.addRegion r.1 r.2).meshLdsSizeInDwords = st.meshLdsSizeInDwords + r.2 := by
      unfold LayoutState.addRegion; split <;> rfl
    rw [List.foldl_cons, ih, hadd, List.map_cons, List.sum_cons, Nat.add_assoc]

theorem foldl_addRegion_layout (rs : List (MeshLdsRegion × Nat)) (size offset : Nat) (layout : MeshLdsLayout) :
    (rs.foldl (fun (st : LayoutState) r => st.addRegion r.1 r.2) ⟨size, offset, some layout⟩).ldsLayout =
      some ((placements offset rs).reverse ++ layout) := by
  induction rs generalizing size offset layout with
  | nil => rfl
  | cons r rs ih =>
    rw [List.foldl_cons]
    exact (ih _ _ _).trans (by simp [placements])

theorem map_fst_placements (offset : Nat) (rs : List (MeshLdsRegion × Nat)) :
    (placements offset rs).map Prod.fst = rs.map Prod.fst := by
  induction rs generalizing offset with
  | nil => rfl
  | cons r rs ih => simp [placements, ih]

theorem exists_mem_placements (offset : Nat) {rs : List (MeshLdsRegion × Nat)} {region : MeshLdsRegion} {size : Nat}
    (h : (region, size) ∈ rs) : ∃ start, (region, start, size) ∈ placements offset rs := by
  induction rs generalizing offset with
  | nil => cases h
  | cons r rs ih =>
    rcases List.mem_cons.mp h with rfl | h
    · exact ⟨offset, List.mem_cons_self _ _⟩
    · obtain ⟨start, hstart⟩ := ih (offset + r.2) h
      exact ⟨start, List.mem_cons_of_mem _ hstart⟩

theorem bounds_of_mem_placements {offset : Nat} {rs : List (MeshLdsRegion × Nat)} {e : MeshLdsRegion × Nat × Nat}
    (h : e ∈ placements offset rs) : offset ≤ e.2.1 ∧ e.2.1 + e.2.2 ≤ offset + (rs.map Prod.snd).sum := by
  induction rs generalizing offset with
  | nil => cases h
  | cons r rs ih =>
    rcases List.mem_cons.mp h with rfl | h
    · simp
    · have := ih h
      simp only [List.map_cons, List.sum_cons]
      omega

theorem placements_pairwise (offset : Nat) (rs : List (MeshLdsRegion × Nat)) :
    (placements offset rs).Pairwise fun a b => a.2.1 + a.2.2 ≤ b.2.1 := by
  induction rs generalizing offset with
  | nil => exact List.Pairwise.nil
  | cons r rs ih => exact List.Pairwise.cons (fun b hb => (bounds_of_mem_placements hb).1) (ih _)

theorem lookup_of_mem {layout : MeshLdsLayout} {region : MeshLdsRegion} {e : Nat × Nat}
    (hnd : (layout.map Prod.fst).Nodup) (h : (region, e) ∈ layout) : layout.lookup region = some e := by
  induction layout with
  | nil => cases h
  | cons x layout ih =>
    rcases x with ⟨k, v⟩
    obtain ⟨hk, hnd⟩ := List.nodup_cons.mp hnd
    rcases List.mem_cons.mp h with h | h
    · cases h
      simp [List.lookup]
    · have hmem : region ∈ layout.map Prod.fst := List.mem_map_of_mem Prod.fst h
      have hne : region ≠ k := fun heq => hk (heq ▸ hmem)
      rw [List.lookup, beq_false_of_ne hne]
      exact ih hnd h

theorem meshLdsRegions_nodup (cfg : MeshLdsConfig) : ((meshLdsRegions cfg).map Prod.fst).Nodup := by
  unfold meshLdsRegions
  split <;> simp

theorem meshLdsSizeInDwords_eq (cfg : MeshLdsConfig) (hmesh : cfg.hasMeshStage = true)
    (ldsLayout : Option MeshLdsLayout) :
    (layoutMeshShaderLds cfg ldsLayout).meshLdsSizeInDwords = ((meshLdsRegions cfg).map Prod.snd).sum := by
  simp [layoutMeshShaderLds, hmesh, foldl_addRegion_size]

theorem ldsLayout_eq (cfg : MeshLdsConfig) (hmesh : cfg.hasMeshStage = true) :
    (layoutMeshShaderLds cfg (some [])).ldsLayout = some (placements 0 (meshLdsRegions cfg)).reverse := by
  simp [layoutMeshShaderLds, hmesh, foldl_addRegion_layout]

section Slots

variable {cfg : MeshLdsConfig}

theorem MeshLdsSlot.offsetInRegion_lt {s : MeshLdsSlot} (hs : s.Valid cfg) :
    ∃ size, (s.region, size) ∈ meshLdsRegions cfg ∧ s.offsetInRegion cfg < size := by
  cases s with
  | vertexCount => exact ⟨1, by simp [meshLdsRegions, region], Nat.one_pos⟩
  | primitiveCount => exact ⟨1, by simp [meshLdsRegions, region], Nat.one_pos⟩
  | barrierCompletion => exact ⟨1, by simp [meshLdsRegions, region], Nat.one_pos⟩
  | flatWorkgroupId =>
    exact ⟨1, by simp [meshLdsRegions, region, show useFlatWorkgroupId cfg = true from hs], Nat.one_pos⟩
  | primitiveIndices p => exact ⟨_, by simp [meshLdsRegions, region], hs⟩
  | vertexOutput v o =>
    exact ⟨_, by simp [meshLdsRegions, region], Nat.mul_comm (4 * _) cfg.outputVertices ▸ mul_add_lt hs.1 hs.2⟩
  | primitiveOutput p o =>
    exact ⟨_, by simp [meshLdsRegions, region], Nat.mul_comm (4 * _) cfg.outputPrimitives ▸ mul_add_lt hs.1 hs.2⟩

theorem MeshLdsSlot.eq_of_offsetInRegion_eq {s t : MeshLdsSlot} (hs : s.Valid cfg) (ht : t.Valid cfg)
    (hregion : s.region = t.region) (h : s.offsetInRegion cfg = t.offsetInRegion cfg) : s = t := by
  cases s <;> cases t <;> (try cases hregion) <;> (try rfl)
  case primitiveIndices.primitiveIndices p p' => simpa [offsetInRegion] using h
  case vertexOutput.vertexOutput v o v' o' =>
    obtain ⟨rfl, rfl⟩ := mul_add_eq_mul_add hs.2 ht.2 h
    rfl
  case primitiveOutput.primitiveOutput p o p' o' =>
    obtain ⟨rfl, rfl⟩ := mul_add_eq_mul_add hs.2 ht.2 h
    rfl

theorem MeshLdsSlot.placement {s : MeshLdsSlot} (hs : s.Valid cfg) :
    ∃ start size, (s.region, start, size) ∈ placements 0 (meshLdsRegions cfg) ∧
      regionStart (placements 0 (meshLdsRegions cfg)).reverse s.region = start ∧ s.offsetInRegion cfg < size := by
  obtain ⟨size, hmem, hlt⟩ := s.offsetInRegion_lt hs
  obtain ⟨start, hstart⟩ := exists_mem_placements 0 hmem
  have hnd : (((placements 0 (meshLdsRegions cfg)).reverse).map Prod.fst).Nodup := by
    rw [List.map_reverse, List.nodup_reverse, map_fst_placements]
    exact meshLdsRegions_nodup cfg
  refine ⟨start, size, hstart, ?_, hlt⟩
  rw [regionStart, lookup_of_mem hnd (List.mem_reverse.mpr hstart)]
  rfl

theorem MeshLdsSlot.ldsOffset_injective {s t : MeshLdsSlot} (hs : s.Valid cfg) (ht : t.Valid cfg)
    (h : s.ldsOffset (placements 0 (meshLdsRegions cfg)).reverse cfg =
      t.ldsOffset (placements 0 (meshLdsRegions cfg)).reverse cfg) : s = t := by
  obtain ⟨start, size, hmem, hstart, hlt⟩ := s.placement hs
  obtain ⟨start', size', hmem', hstart', hlt'⟩ := t.placement ht
  rw [MeshLdsSlot.ldsOffset, MeshLdsSlot.ldsOffset, hstart, hstart'] at h
  by_cases hregion : s.region = t.region
  · have : start = start' := by rw [← hstart, ← hstart', hregion]
    exact s.eq_of_offsetInRegion_eq hs ht hregion (by omega)
  · have hne : (s.region, start, size) ≠ (t.region, start', size') := fun he => hregion (congrArg Prod.fst he)
    have hapart := ((placements_pairwise 0 (meshLdsRegions cfg)).imp
      (fun {a b} hab => Or.inl hab : ∀ {a b : MeshLdsRegion × Nat × Nat}, a.2.1 + a.2.2 ≤ b.2.1 →
        a.2.1 + a.2.2 ≤ b.2.1 ∨ b.2.1 + b.2.2 ≤ a.2.1)).forall (fun _ _ h => h.symm) hmem hmem' hne
    simp only at hapart
    omega

end Slots

/-- `layoutMeshShaderLds` gives every dword the mesh shader can name a dword of
the internal mesh LDS it creates, no two of them the same dword, and the run
without a table reports the total size of the run with one. -/
theorem layoutMeshShaderLds_slots (cfg : MeshLdsConfig) (hmesh : cfg.hasMeshStage = true) :
    ∃ layout, (layoutMeshShaderLds cfg (some [])).ldsLayout = some layout ∧
      (∀ s : MeshLdsSlot, s.Valid cfg → s.ldsOffset layout cfg < (layoutMeshShaderLds cfg (some [])).meshLdsSizeInDwords) ∧
      (∀ s t : MeshLdsSlot, s.Valid cfg → t.Valid cfg → s.ldsOffset layout cfg = t.ldsOffset layout cfg → s = t) ∧
      (layoutMeshShaderLds cfg none).totalSizeInDwords = (layoutMeshShaderLds cfg (some [])).totalSizeInDwords := by
  refine ⟨_, ldsLayout_eq cfg hmesh, fun s hs => ?_, fun s t hs ht h => s.ldsOffset_injective hs ht h, ?_⟩
  · obtain ⟨start, size, hmem, hstart, hlt⟩ := s.placement hs
    have hbound := bounds_of_mem_placements hmem
    rw [meshLdsSizeInDwords_eq cfg hmesh, MeshLdsSlot.ldsOffset, hstart]
    simp only [Nat.zero_add] at hbound
    omega
  · simp [layoutMeshShaderLds, hmesh, foldl_addRegion_size]

theorem layoutMeshShaderLds_slots_gfx10 :
    let cfg : MeshLdsConfig := ⟨true, 10, true, false, 3, 2, 2, 1, [16]⟩
    ∃ layout, (layoutMeshShaderLds cfg (some [])).ldsLayout = some layout ∧
      (∀ s : MeshLdsSlot, s.Valid cfg → s.ldsOffset layout cfg < (layoutMeshShaderLds cfg (some [])).meshLdsSizeInDwords) ∧
      (∀ s t : MeshLdsSlot, s.Valid cfg → t.Valid cfg → s.ldsOffset layout cfg = t.ldsOffset layout cfg → s = t) ∧
      (layoutMeshShaderLds cfg none).totalSizeInDwords = (layoutMeshShaderLds cfg (some [])).totalSizeInDwords :=
  layoutMeshShaderLds_slots ⟨true, 10, true, false, 3, 2, 2, 1, [16]⟩ rfl

def runLdsWrites (layout : MeshLdsLayout) (cfg : MeshLdsConfig) (lds : Nat → Nat)
    (writes : List (MeshLdsSlot × Nat)) : Nat → Nat :=
  writes.foldl (fun lds w => Function.update lds (w.1.ldsOffset layout cfg) w.2) lds

@[simp] theorem runLdsWrites_cons (layout : MeshLdsLayout) (cfg : MeshLdsConfig) (lds : Nat → Nat)
    (w : MeshLdsSlot × Nat) (writes : List (MeshLdsSlot × Nat)) :
    runLdsWrites layout cfg lds (w :: writes) =
      runLdsWrites layout cfg (Function.update lds (w.1.ldsOffset layout cfg) w.2) writes := rfl

def lastWrite (writes : List (MeshLdsSlot × Nat)) (s : MeshLdsSlot) : Option Nat :=
  ((writes.filter fun w => w.1 = s).getLast?).map Prod.snd

theorem lastWrite_cons (w : MeshLdsSlot × Nat) (writes : List (MeshLdsSlot × Nat)) (s : MeshLdsSlot) :
    lastWrite (w :: writes) s = (lastWrite writes s).or (if w.1 = s then some w.2 else none) := by
  unfold lastWrite
  by_cases h : w.1 = s
  · rw [List.filter_cons_of_pos (by simpa using h), List.getLast?_cons]
    cases (writes.filter fun w => w.1 = s).getLast? <;> simp [h]
  · rw [List.filter_cons_of_neg (by simpa using h)]
    simp [h]

theorem runLdsWrites_slot {cfg : MeshLdsConfig} (lds : Nat → Nat) (writes : List (MeshLdsSlot × Nat))
    (hwrites : ∀ w ∈ writes, w.1.Valid cfg) {s : MeshLdsSlot} (hs : s.Valid cfg) :
    runLdsWrites (placements 0 (meshLdsRegions cfg)).reverse cfg lds writes
        (s.ldsOffset (placements 0 (meshLdsRegions cfg)).reverse cfg) =
      (lastWrite writes s).getD (lds (s.ldsOffset (placements 0 (meshLdsRegions cfg)).reverse cfg)) := by
  induction writes generalizing lds with
  | nil => rfl
  | cons w writes ih =>
    have hw := hwrites w (List.mem_cons_self _ _)
    have hoffset : s.ldsOffset _ cfg = w.1.ldsOffset _ cfg ↔ w.1 = s :=
      ⟨fun h => (MeshLdsSlot.ldsOffset_injective hs hw h).symm, fun h => h ▸ rfl⟩
    rw [runLdsWrites_cons, ih _ fun w' hw' => hwrites w' (List.mem_cons_of_mem _ hw'), lastWrite_cons]
    cases lastWrite writes s <;> by_cases h : w.1 = s <;> simp [Function.update_apply, h, hoffset]

/-- A read of a slot after any sequence of writes to slots the mesh shader can
name returns the last value written to that slot, or what the LDS held when
none was: the writes to the other slots never reach it. -/
theorem meshLds_readLastWrite (cfg : MeshLdsConfig) (hmesh : cfg.hasMeshStage = true) {layout : MeshLdsLayout}
    (hlayout : (layoutMeshShaderLds cfg (some [])).ldsLayout = some layout) (lds : Nat → Nat)
    (writes : List (MeshLdsSlot × Nat)) (hwrites : ∀ w ∈ writes, w.1.Valid cfg) {s : MeshLdsSlot} (hs : s.Valid cfg) :
    runLdsWrites layout cfg lds writes (s.ldsOffset layout cfg) =
      (lastWrite writes s).getD (lds (s.ldsOffset layout cfg)) := by
  rw [ldsLayout_eq cfg hmesh, Option.some.injEq] at hlayout
  subst hlayout
  exact runLdsWrites_slot lds writes hwrites hs

theorem meshLds_readLastWrite_vertexOutput :
    let cfg : MeshLdsConfig := ⟨true, 10, true, false, 3, 2, 2, 1, [16]⟩
    let layout : MeshLdsLayout := [(.primitiveOutput, 30, 8), (.vertexOutput, 6, 24), (.primitiveIndices, 4, 2),
      (.flatWorkgroupId, 3, 1), (.barrierCompletion, 2, 1), (.primitiveCount, 1, 1), (.vertexCount, 0, 1)]
    let writes : List (MeshLdsSlot × Nat) := [(.vertexOutput 1 2, 7), (.primitiveOutput 0 1, 9), (.vertexCount, 3)]
    runLdsWrites layout cfg (fun _ => 0) writes ((MeshLdsSlot.vertexOutput 1 2).ldsOffset layout cfg) =
      (lastWrite writes (.vertexOutput 1 2)).getD 0 :=
  meshLds_readLastWrite ⟨true, 10, true, false, 3, 2, 2, 1, [16]⟩ rfl rfl (fun _ => 0) _ (by decide) (by decide)

def ldsDwords (bitWidth : Nat) (writeValue : List Nat) : List Nat :=
  if bitWidth = 64 then bitCastToDwords writeValue else writeValue

/-- `writeValueToLds`: the value's dwords stored from `ldsOffset` on. The LDS
is a memory of dwords, stored to as the payload ring is. -/
def writeValueToLds (lds : Nat → Nat) (bitWidth : Nat) (writeValue : List Nat) (ldsOffset : Nat) : Nat → Nat :=
  storeBytes lds ldsOffset (ldsDwords bitWidth writeValue)

/-- `readValueFromLds` of a `<numElements x i bitWidth>`: 8- and 16-bit elements
truncated from their dword, 64-bit elements made of two dwords. -/
def readValueFromLds (lds : Nat → Nat) (bitWidth numElements ldsOffset : Nat) : List Nat :=
  if bitWidth = 64 then bitCastFromDwords (loadBytes lds ldsOffset (2 * numElements))
  else if bitWidth = 8 ∨ bitWidth = 16 then (loadBytes lds ldsOffset numElements).map (· % 2 ^ bitWidth)
  else loadBytes lds ldsOffset numElements

/-- `writeVertexOutput`: an output of vertex `vertexIndex`, `outputOffset`
dwords into the vertex's outputs. -/
def writeVertexOutput (layout : MeshLdsLayout) (cfg : MeshLdsConfig) (lds : Nat → Nat)
    (outputOffset vertexIndex bitWidth : Nat) (outputValue : List Nat) : Nat → Nat :=
  let vertexStride := 4 * cfg.outputMapLocCount
  let ldsStart := regionStart layout .vertexOutput
  writeValueToLds lds bitWidth outputValue (ldsStart + (vertexIndex * vertexStride + outputOffset))

def writePrimitiveOutput (layout : MeshLdsLayout) (cfg : MeshLdsConfig) (lds : Nat → Nat)
    (outputOffset primitiveIndex bitWidth : Nat) (outputValue : List Nat) : Nat → Nat :=
  let primitiveStride := 4 * cfg.perPrimitiveOutputMapLocCount
  let ldsStart := regionStart layout .primitiveOutput
  writeValueToLds lds bitWidth outputValue (ldsStart + (primitiveIndex * primitiveStride + outputOffset))

theorem readValueFromLds_of_loadBytes {lds : Nat → Nat} {bitWidth ldsOffset : Nat} {value : List Nat}
    (hvalue : ∀ e ∈ value, e < 2 ^ bitWidth)
    (hdwords : loadBytes lds ldsOffset (ldsDwords bitWidth value).length = ldsDwords bitWidth value) :
    readValueFromLds lds bitWidth value.length ldsOffset = value := by
  by_cases h64 : bitWidth = 64
  · simp only [ldsDwords, if_pos h64, length_bitCastToDwords] at hdwords
    rw [readValueFromLds, if_pos h64, hdwords, bitCastFromDwords_bitCastToDwords]
  · simp only [ldsDwords, if_neg h64] at hdwords
    rw [readValueFromLds, if_neg h64, hdwords]
    split
    · conv_rhs => rw [← List.map_id value]
      exact List.map_congr_left fun e he => Nat.mod_eq_of_lt (hvalue e he)
    · rfl

/-- An output the API mesh shader writes with `writeVertexOutput` is what the
export reads back at the same dwords, whatever is written to other slots after
it: 8- and 16-bit elements survive their zero extension, 64-bit ones their
split into dwords. -/
theorem vertexOutput_roundTrip (cfg : MeshLdsConfig) (hmesh : cfg.hasMeshStage = true) {layout : MeshLdsLayout}
    (hlayout : (layoutMeshShaderLds cfg (some [])).ldsLayout = some layout) (lds : Nat → Nat)
    (outputOffset vertexIndex bitWidth : Nat) {outputValue : List Nat} (hvertex : vertexIndex < cfg.outputVertices)
    (hfit : outputOffset + (ldsDwords bitWidth outputValue).length ≤ 4 * cfg.outputMapLocCount)
    (hvalue : ∀ e ∈ outputValue, e < 2 ^ bitWidth) (after : List (MeshLdsSlot × Nat))
    (hafter : ∀ w ∈ after, w.1.Valid cfg ∧
      ∀ j < (ldsDwords bitWidth outputValue).length, w.1 ≠ .vertexOutput vertexIndex (outputOffset + j)) :
    readValueFromLds
        (runLdsWrites layout cfg (writeVertexOutput layout cfg lds outputOffset vertexIndex bitWidth outputValue) after)
        bitWidth outputValue.length ((MeshLdsSlot.vertexOutput vertexIndex outputOffset).ldsOffset layout cfg) =
      outputValue := by
  rw [ldsLayout_eq cfg hmesh, Option.some.injEq] at hlayout
  subst hlayout
  apply readValueFromLds_of_loadBytes hvalue
  refine (loadBytes_congr fun a h₁ h₂ => ?_).trans (loadBytes_storeBytes lds _ _)
  obtain ⟨j, rfl⟩ : ∃ j, a = (MeshLdsSlot.vertexOutput vertexIndex outputOffset).ldsOffset
      (placements 0 (meshLdsRegions cfg)).reverse cfg + j := ⟨_, (Nat.add_sub_cancel' h₁).symm⟩
  have hj : j < (ldsDwords bitWidth outputValue).length := by omega
  have hslot : (MeshLdsSlot.vertexOutput vertexIndex outputOffset).ldsOffset
      (placements 0 (meshLdsRegions cfg)).reverse cfg + j =
        (MeshLdsSlot.vertexOutput vertexIndex (outputOffset + j)).ldsOffset
          (placements 0 (meshLdsRegions cfg)).reverse cfg := by
    simp only [MeshLdsSlot.ldsOffset, MeshLdsSlot.offsetInRegion, MeshLdsSlot.region]
    omega
  have hvalid : (MeshLdsSlot.vertexOutput vertexIndex (outputOffset + j)).Valid cfg := ⟨hvertex, by omega⟩
  have hnone : lastWrite after (.vertexOutput vertexIndex (outputOffset + j)) = none := by
    simp only [lastWrite, Option.map_eq_none', List.getLast?_eq_none_iff, List.filter_eq_nil_iff,
      decide_eq_true_eq]
    exact fun w hw => (hafter w hw).2 j hj
  rw [hslot, runLdsWrites_slot _ _ (fun w hw => (hafter w hw).1) hvalid, hnone, Option.getD_none]
  rfl

theorem vertexOutput_roundTrip_vec3 :
    let cfg : MeshLdsConfig := ⟨true, 10, true, false, 3, 2, 2, 1, [16]⟩
    let layout : MeshLdsLayout := [(.primitiveOutput, 30, 8), (.vertexOutput, 6, 24), (.primitiveIndices, 4, 2),
      (.flatWorkgroupId, 3, 1), (.barrierCompletion, 2, 1), (.primitiveCount, 1, 1), (.vertexCount, 0, 1)]
    readValueFromLds
        (runLdsWrites layout cfg (writeVertexOutput layout cfg (fun _ => 0) 4 1 16 [1, 2, 3])
          [(.vertexOutput 1 0, 5), (.vertexCount, 2)])
        16 [1, 2, 3].length ((MeshLdsSlot.vertexOutput 1 4).ldsOffset layout cfg) = [1, 2, 3] :=
  vertexOutput_roundTrip ⟨true, 10, true, false, 3, 2, 2, 1, [16]⟩ rfl rfl (fun _ => 0) 4 1 16 (by decide) (by decide)
    (by decide) _ (by decide)

end NggPrimShader.Mesh.Lds
