import NggPrimShader.Es.Culling

/-! Deferred vertex export of the culling path: `runPartEs(args, position)`
reads back, for a compacted thread, the position and the system values the
uncompacted vertex recorded, and merges them with the thread's own values
through phis. The system values come back from the exported vertex except the
tessellation coordinate: its Y is merged into the X argument, and the Y
argument keeps the thread's own value. The position is read one dword into its
slot (`offsetInRegion` is passed `true`), so the exporter gets the vertex's
y, z, w and the next vertex's x. -/
namespace NggPrimShader.Es.PartEs

open NggPrimShader.Basic NggPrimShader.Es.CullInfo NggPrimShader.Es.Culling

structure ExporterCall where
  position : Fin 4 → Nat
  systemValue : SystemValue → Nat

/-- `runPartEs(args, position)` on thread `t` whose own values are `th`. With
vertex compaction, `.uncompactVert` reads the values of vertex
`VertexIndexMap[t]` and the phis of `.endUncompactVert` take them when
`compactVertex` (`m_compactVertex`) holds, the thread's own values otherwise.
The position read is `readPerThreadDataFromLds(vec4, uncompactedVertexIndex,
VertexPosition, true)`: the `true` lands in `offsetInRegion`, one dword. -/
def runPartEs (cfg : PipelineConfig) (compactVertex : Bool) (indexMap vertexPosition cullInfo : Nat → Nat)
    (th : VertexThread) (t : Nat) : ExporterCall :=
  if cfg.compactVertex then
    let uncompactedVertexIndex := indexMap t
    let newValue := fun f => cullInfo (cullInfoAddr cfg uncompactedVertexIndex f)
    let phi := fun newV oldV : Nat => if compactVertex then newV else oldV
    let tessCoordUsed := cfg.hasTes && cfg.tessCoord
    let tessCoordX := th.vgprArgs 5
    let tessCoordY := th.vgprArgs 6
    let tessCoordX := if tessCoordUsed then phi (newValue .tessCoordX) tessCoordX else tessCoordX
    let tessCoordX := if tessCoordUsed then phi (newValue .tessCoordY) tessCoordY else tessCoordX
    let relPatchId := if cfg.hasTes then phi (newValue .relPatchId) (th.vgprArgs 7) else th.vgprArgs 7
    let patchId :=
      if cfg.hasTes && cfg.tesPrimitiveId then phi (newValue .patchId) (th.vgprArgs 8) else th.vgprArgs 8
    let vertexId :=
      if !cfg.hasTes && cfg.vertexIndex then phi (newValue .vertexId) (th.vgprArgs 5) else th.vgprArgs 5
    let vsPrimitiveId := if !cfg.hasTes && cfg.vsPrimitiveId then
        phi (newValue .primitiveId) th.distributedPrimitiveId
      else th.distributedPrimitiveId
    let instanceId :=
      if !cfg.hasTes && cfg.instanceIndex then phi (newValue .instanceId) (th.vgprArgs 8) else th.vgprArgs 8
    ⟨fun c => phi (vertexPosition (4 * uncompactedVertexIndex + 1 + c.val)) (th.position c), fun
      | .tessCoordX => tessCoordX
      | .tessCoordY => tessCoordY
      | .relPatchId => relPatchId
      | .patchId => patchId
      | .vertexId => vertexId
      | .vsPrimitiveId => vsPrimitiveId
      | .instanceId => instanceId⟩
  else ⟨th.position, th.systemValue⟩

theorem mem_compactVertInfo {cfg : PipelineConfig} {sv : SystemValue} (hsv : sv.used cfg) (th : VertexThread)
    (c : Nat) : (sv.cullInfoField, th.systemValue sv) ∈ compactVertInfo cfg th c := by
  cases sv <;> simp only [SystemValue.used, Bool.and_eq_true, Bool.not_eq_true'] at hsv <;>
    simp [compactVertInfo, SystemValue.cullInfoField, VertexThread.systemValue, hsv]

section Calls

variable {cfg : PipelineConfig} (indexMap vertexPosition cullInfo : Nat → Nat) (th : VertexThread) (t : Nat)

theorem runPartEs_uncompacted_position :
    (runPartEs cfg false indexMap vertexPosition cullInfo th t).position = th.position := by
  by_cases hcv : cfg.compactVertex <;> simp [runPartEs, hcv]

theorem runPartEs_uncompacted_systemValue (sv : SystemValue) :
    (runPartEs cfg false indexMap vertexPosition cullInfo th t).systemValue sv =
      if cfg.compactVertex ∧ sv = .tessCoordX ∧ SystemValue.used cfg .tessCoordX then
        th.systemValue .tessCoordY else th.systemValue sv := by
  by_cases hcv : cfg.compactVertex
  · cases sv <;> simp [runPartEs, hcv, SystemValue.used, VertexThread.systemValue]
  · simp [runPartEs, hcv]

variable (hcv : cfg.compactVertex = true)
include hcv

theorem runPartEs_compacted_position (c : Fin 4) :
    (runPartEs cfg true indexMap vertexPosition cullInfo th t).position c =
      vertexPosition (4 * indexMap t + 1 + c.val) := by
  simp [runPartEs, hcv]

theorem runPartEs_compacted_systemValue (sv : SystemValue) :
    (runPartEs cfg true indexMap vertexPosition cullInfo th t).systemValue sv =
      if sv.used cfg ∧ sv ≠ .tessCoordY then
        cullInfo (cullInfoAddr cfg (indexMap t) (if sv = .tessCoordX then .tessCoordY else sv.cullInfoField))
      else th.systemValue sv := by
  cases sv <;> simp [runPartEs, hcv, SystemValue.used, VertexThread.systemValue, SystemValue.cullInfoField]
  -- the X argument: both phis sit under the same condition, the second one wins
  split_ifs <;> rfl

end Calls

variable {ws : WaveSize}

/-- The call thread `t` makes in `.expVert` of `buildPrimShader`: `runPartEs`
on its own values, under `m_compactVertex` as `.checkAllocReq` merges it. -/
def expVertCall (cfg : PipelineConfig) (sg : Subgroup ws) (culled : Nat → Bool)
    (waNggCullingNoEmptySubgroups runtimePassthrough : Bool) (r : Run) (threads : Nat → VertexThread) (t : Nat) :
    ExporterCall :=
  runPartEs cfg (checkAllocReqState cfg sg culled waNggCullingNoEmptySubgroups runtimePassthrough r).compactVertex
    r.indexMap r.positionAfter r.cullInfoAfter (threads t) t

section Compacted

variable {cfg : PipelineConfig} {sg : Subgroup ws} {culled : Nat → Bool} {threads : Nat → VertexThread} {r : Run}
  (hcull : cfg.cullingMode = true) (hr : r.Valid cfg sg culled threads) (hD : sg.referencedCount culled ≠ 0)
  (hcv : cfg.compactVertex = true) (hhc : r.hasCulledVertices sg = true)
include hcull hr hD hcv hhc

/-- Deferred export after culling with compaction: thread `t` below the drawn
count exports vertex `u = VertexIndexMap[t]`. The exporter receives `u`'s value
of every used system value except the tessellation coordinate, whose X argument
carries `u`'s Y and whose Y argument carries the thread's own Y; its position
argument is `u`'s y, z, w followed by the x of vertex `u + 1`. -/
theorem expVertCall_compacted (waNggCullingNoEmptySubgroups : Bool) {t : Nat}
    (ht : t < sg.referencedCount culled) :
    (buildPrimShader cfg sg culled waNggCullingNoEmptySubgroups false r).vertex t = some (r.indexMap t) ∧
      (∀ c : Fin 3, (expVertCall cfg sg culled waNggCullingNoEmptySubgroups false r threads t).position
        c.castSucc = (threads (r.indexMap t)).position c.succ) ∧
      (r.indexMap t + 1 < sg.vertCountInSubgroup →
        (expVertCall cfg sg culled waNggCullingNoEmptySubgroups false r threads t).position 3 =
          (threads (r.indexMap t + 1)).position 0) ∧
      (∀ sv, sv.used cfg → sv ≠ .tessCoordX → sv ≠ .tessCoordY →
        (expVertCall cfg sg culled waNggCullingNoEmptySubgroups false r threads t).systemValue sv =
          (threads (r.indexMap t)).systemValue sv) ∧
      (SystemValue.used cfg .tessCoordX →
        (expVertCall cfg sg culled waNggCullingNoEmptySubgroups false r threads t).systemValue .tessCoordX =
            (threads (r.indexMap t)).systemValue .tessCoordY ∧
          (expVertCall cfg sg culled waNggCullingNoEmptySubgroups false r threads t).systemValue .tessCoordY =
            (threads t).systemValue .tessCoordY) := by
  obtain ⟨hout, hu⟩ := culling_vertex_indexMap hcull hr hD waNggCullingNoEmptySubgroups hcv hhc ht
  have hcall : expVertCall cfg sg culled waNggCullingNoEmptySubgroups false r threads t =
      runPartEs cfg true r.indexMap r.positionAfter r.cullInfoAfter (threads t) t := by
    simp [expVertCall, checkAllocReqState, cullingState, hcv, hhc]
  have hread : ∀ sv, sv.used cfg →
      r.cullInfoAfter (cullInfoAddr cfg (r.indexMap t) sv.cullInfoField) = (threads (r.indexMap t)).systemValue sv :=
    fun sv hsv => Run.cullInfoAfter_of_mem hcull hr hcv hhc hu (mem_compactVertInfo hsv _ _)
  rw [hcall]
  refine ⟨hout, fun c => ?_, fun hnext => ?_, fun sv hsv hx hy => ?_, fun hsv => ⟨?_, ?_⟩⟩
  · rw [runPartEs_compacted_position _ _ _ _ _ hcv, ← Run.positionAfter_eq hr (sg.lt_of_referenced hu)]
    simp only [Fin.coe_castSucc, Fin.val_succ, Nat.add_assoc, Nat.add_comm 1]
  · rw [runPartEs_compacted_position _ _ _ _ _ hcv, ← Run.positionAfter_eq hr hnext]
    rfl
  · rw [runPartEs_compacted_systemValue _ _ _ _ _ hcv, if_pos ⟨hsv, hy⟩, if_neg hx, hread sv hsv]
  · rw [runPartEs_compacted_systemValue _ _ _ _ _ hcv, if_pos ⟨hsv, by decide⟩, if_pos rfl]
    exact hread .tessCoordY hsv
  · rw [runPartEs_compacted_systemValue _ _ _ _ _ hcv, if_neg (by simp)]

end Compacted

def tessCoordConfig : PipelineConfig :=
  { compactingConfig with hasTes := true, tessCoord := true }

def unusedFirstVertexSubgroup : Subgroup WaveSize.wave32 :=
  ⟨4, 1, 1, fun _ k => k.val + 1, le_rfl, by decide, by decide, by decide, by decide⟩

def tessCoordThread (t : Nat) : VertexThread :=
  ⟨fun k => if k = 5 then t else if k = 6 then 10 + t else 0, 0, fun _ => 0⟩

def unusedFirstVertexRun : Run :=
  programOrder tessCoordConfig unusedFirstVertexSubgroup (fun _ => false) tessCoordThread (fun _ => 0) (fun _ => 0)
    (fun _ => 0) (fun _ => 0)

/-- Thread 0 exports vertex 1, at tessellation coordinate `(1, 11)`, but its
exporter receives X = 11 (vertex 1's Y) and Y = 10 (thread 0's own Y). -/
theorem expVertCall_tessCoord_misrouted :
    (buildPrimShader tessCoordConfig unusedFirstVertexSubgroup (fun _ => false) false false
        unusedFirstVertexRun).vertex 0 = some 1 ∧
      (tessCoordThread 1).systemValue .tessCoordX = 1 ∧ (tessCoordThread 1).systemValue .tessCoordY = 11 ∧
      (expVertCall tessCoordConfig unusedFirstVertexSubgroup (fun _ => false) false false unusedFirstVertexRun
        tessCoordThread 0).systemValue .tessCoordX = 11 ∧
      (expVertCall tessCoordConfig unusedFirstVertexSubgroup (fun _ => false) false false unusedFirstVertexRun
        tessCoordThread 0).systemValue .tessCoordY = 10 := by
  have hcull : tessCoordConfig.cullingMode = true := rfl
  have hr := programOrder_valid tessCoordConfig unusedFirstVertexSubgroup (fun _ => false) tessCoordThread
    (fun _ => 0) (fun _ => 0) (fun _ => 0) (fun _ => 0)
  have hD : unusedFirstVertexSubgroup.referencedCount (fun _ => false) = 3 := by decide
  have hhc : unusedFirstVertexRun.hasCulledVertices unusedFirstVertexSubgroup = true := by
    rw [Run.hasCulledVertices, unusedFirstVertexRun, Run.vertCount_eq hcull hr, hD]
    decide
  have hmap := Run.indexMap_rank hcull hr rfl hhc
    (show unusedFirstVertexSubgroup.referenced (fun _ => false) 1 by decide)
  rw [show Nat.count (fun u => unusedFirstVertexSubgroup.referenced (fun _ => false) u = true) 1 = 0 by decide]
    at hmap
  obtain ⟨hout, -, -, -, htc⟩ := expVertCall_compacted hcull hr (by omega) rfl hhc false
    (show 0 < unusedFirstVertexSubgroup.referencedCount (fun _ => false) by omega)
  obtain ⟨hx, hy⟩ := htc rfl
  rw [hmap] at hout hx
  exact ⟨hout, rfl, rfl, hx, hy⟩

end NggPrimShader.Es.PartEs
