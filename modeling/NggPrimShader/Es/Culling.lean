import NggPrimShader.Es.CullInfo
import NggPrimShader.Wave.Compaction
import Mathlib.Data.List.FinRange

/-! The culling path of `buildPrimShader` (no API GS) on one subgroup, from the
draw flags to what the hardware receives: the GS_ALLOC_REQ message, each
primitive thread's connectivity word and the vertex each thread exports. The
operations of each LDS phase land in any order between its barriers; a kept
primitive's word names the threads that export its own vertices. -/
namespace NggPrimShader.Es.Culling

open NggPrimShader.Basic NggPrimShader.Wave.Compaction NggPrimShader.Es.CullInfo

/-- One subgroup as the hardware hands it to `buildPrimShader`. -/
structure Subgroup (ws : WaveSize) where
  vertCountInSubgroup : Nat
  primCountInSubgroup : Nat
  waveCount : Nat  -- The waves `0 .. waveCount - 1` launched for the subgroup.
  -- `vertexIndex0`, `vertexIndex1`, `vertexIndex2` of primitive thread `i`.
  vertexIndex : Nat → Fin 3 → Nat
  waveCount_pos : 1 ≤ waveCount
  waveCount_le : waveCount ≤ ws.waveCountInSubgroup
  vertCount_le : vertCountInSubgroup ≤ waveCount * ws.val
  primCount_le : primCountInSubgroup ≤ waveCount * ws.val
  vertexIndex_lt : ∀ i < primCountInSubgroup, ∀ k, vertexIndex i k < vertCountInSubgroup

/-- What a vertex thread holds for deferred export: its VGPR arguments, its
distributed primitive ID and its position. -/
structure VertexThread where
  vgprArgs : Nat → Nat
  distributedPrimitiveId : Nat
  position : Fin 4 → Nat

inductive SystemValue
  | tessCoordX
  | tessCoordY
  | relPatchId
  | patchId
  | vertexId
  | vsPrimitiveId
  | instanceId
  deriving DecidableEq, Repr

def VertexThread.systemValue (th : VertexThread) : SystemValue → Nat
  | .tessCoordX => th.vgprArgs 5
  | .tessCoordY => th.vgprArgs 6
  | .relPatchId => th.vgprArgs 7
  | .patchId => th.vgprArgs 8
  | .vertexId => th.vgprArgs 5
  | .vsPrimitiveId => th.distributedPrimitiveId
  | .instanceId => th.vgprArgs 8

def SystemValue.used (cfg : PipelineConfig) : SystemValue → Bool
  | .tessCoordX | .tessCoordY => cfg.hasTes && cfg.tessCoord
  | .relPatchId => cfg.hasTes
  | .patchId => cfg.hasTes && cfg.tesPrimitiveId
  | .vertexId => !cfg.hasTes && cfg.vertexIndex
  | .vsPrimitiveId => !cfg.hasTes && cfg.vsPrimitiveId
  | .instanceId => !cfg.hasTes && cfg.instanceIndex

def SystemValue.cullInfoField : SystemValue → CullInfoField
  | .tessCoordX => .tessCoordX
  | .tessCoordY => .tessCoordY
  | .relPatchId => .relPatchId
  | .patchId => .patchId
  | .vertexId => .vertexId
  | .vsPrimitiveId => .primitiveId
  | .instanceId => .instanceId

variable {ws : WaveSize}

namespace Subgroup

variable (sg : Subgroup ws)

def vertCountInWave (w : Nat) : Nat := min ws.val (sg.vertCountInSubgroup - w * ws.val)

def referenced (culled : Nat → Bool) (v : Nat) : Bool :=
  (List.range sg.primCountInSubgroup).any fun i =>
    !culled i && (List.finRange 3).any fun k => sg.vertexIndex i k == v

def referencedCount (culled : Nat → Bool) : Nat :=
  Nat.count (fun v => sg.referenced culled v) sg.vertCountInSubgroup

theorem referenced_iff (culled : Nat → Bool) (v : Nat) :
    sg.referenced culled v ↔ ∃ i < sg.primCountInSubgroup, culled i = false ∧ ∃ k, sg.vertexIndex i k = v := by
  simp [referenced, List.mem_finRange]

theorem lt_of_referenced {culled : Nat → Bool} {v : Nat} (h : sg.referenced culled v) :
    v < sg.vertCountInSubgroup := by
  obtain ⟨i, hi, -, k, rfl⟩ := (sg.referenced_iff culled v).mp h
  exact sg.vertexIndex_lt i hi k

theorem referenced_vertexIndex {culled : Nat → Bool} {i : Nat} (hi : i < sg.primCountInSubgroup)
    (hc : culled i = false) (k : Fin 3) : sg.referenced culled (sg.vertexIndex i k) :=
  (sg.referenced_iff culled _).mpr ⟨i, hi, hc, k, rfl⟩

theorem vertCount_lt_two_pow : sg.vertCountInSubgroup < 2 ^ 9 := by
  have := ws.waveCount_mul
  have := Nat.mul_le_mul_right ws.val sg.waveCount_le
  have := sg.vertCount_le
  simp only [NggMaxThreadsPerSubgroup] at *
  omega

theorem primCount_lt_two_pow : sg.primCountInSubgroup < 2 ^ 9 := by
  have := ws.waveCount_mul
  have := Nat.mul_le_mul_right ws.val sg.waveCount_le
  have := sg.primCount_le
  simp only [NggMaxThreadsPerSubgroup] at *
  omega

end Subgroup

def dummyExportCount (waNggCullingNoEmptySubgroups : Bool) : Nat :=
  if waNggCullingNoEmptySubgroups then 1 else 0

section Phases

variable (cfg : PipelineConfig) (sg : Subgroup ws)

def initVertDrawFlagWrites : List (Nat × CullInfoField × Nat) :=
  (List.range sg.vertCountInSubgroup).map fun t => (t, .drawFlag, 0)

def writeVertDrawFlagWrites (culled : Nat → Bool) : List (Nat × CullInfoField × Nat) :=
  ((List.range sg.primCountInSubgroup).filter fun i => !culled i).flatMap fun i =>
    (List.finRange 3).map fun k => (sg.vertexIndex i k, .drawFlag, 1)

def writeVertPositionStores (threads : Nat → VertexThread) : List (Nat × Nat) :=
  (List.range sg.vertCountInSubgroup).flatMap fun t =>
    (List.finRange 4).map fun c : Fin 4 => (4 * t + c.val, (threads t).position c)

def checkVertDrawFlag (lds : Nat → Nat) (t : Nat) : Bool :=
  decide (t < sg.vertCountInSubgroup) && lds (cullInfoAddr cfg t .drawFlag) != 0

def compactVertInfo (th : VertexThread) (compactedVertexIndex : Nat) : List (CullInfoField × Nat) :=
  (.compactedVertexIndex, compactedVertexIndex) ::
    if cfg.hasTes then
      (if cfg.tessCoord then [(.tessCoordX, th.vgprArgs 5), (.tessCoordY, th.vgprArgs 6)] else []) ++
        (.relPatchId, th.vgprArgs 7) :: (if cfg.tesPrimitiveId then [(.patchId, th.vgprArgs 8)] else [])
    else
      (if cfg.vertexIndex then [(.vertexId, th.vgprArgs 5)] else []) ++
        (if cfg.instanceIndex then [(.instanceId, th.vgprArgs 8)] else []) ++
        (if cfg.vsPrimitiveId then [(.primitiveId, th.distributedPrimitiveId)] else [])

theorem compactVertInfo_fields (th : VertexThread) (c : Nat) :
    (compactVertInfo cfg th c).map Prod.fst = compactVertFields cfg := by
  unfold compactVertInfo compactVertFields
  split_ifs <;> simp

theorem compactVertFields_nodup : (compactVertFields cfg).Nodup := by
  unfold compactVertFields
  split_ifs <;> decide

theorem compactVertFields_ne {f : CullInfoField} (hf : f ∈ compactVertFields cfg) :
    f ≠ .xfbOutputs ∧ f ≠ .drawFlag := by
  have h : ∀ g ∈ compactVertFields cfg, g ≠ .xfbOutputs ∧ g ≠ .drawFlag := by
    unfold compactVertFields
    split_ifs <;> decide
  exact h f hf

def exportPrimitive (compactVertex : Bool) (cullInfo : Nat → Nat) (primitiveCulled : Bool) (t : Nat) : Nat :=
  let vertexIndex := fun k =>
    if compactVertex then cullInfo (cullInfoAddr cfg (sg.vertexIndex t k) .compactedVertexIndex)
    else sg.vertexIndex t k
  if primitiveCulled then NullPrim else primitiveData (vertexIndex 0) (vertexIndex 1) (vertexIndex 2)

end Phases

/-- The LDS regions on entry to the subgroup and, for each phase between two
barriers, the order in which its stores or atomic adds land. -/
structure Run where
  vertexPosition : Nat → Nat
  vertexCullInfo : Nat → Nat
  vertexCounts : Nat → Nat
  vertexIndexMap : Nat → Nat
  positionOrder : List (Nat × Nat)
  initDrawFlagOrder : List (Nat × Nat)
  drawFlagOrder : List (Nat × Nat)
  countOrder : List AtomicAdd
  compactOrder : List (Nat × Nat)
  indexMapOrder : List (Nat × Nat)

namespace Run

variable (cfg : PipelineConfig) (sg : Subgroup ws) (r : Run)

def drawFlag : Nat → Bool :=
  checkVertDrawFlag cfg sg (runStores (runStores r.vertexCullInfo r.initDrawFlagOrder) r.drawFlagOrder)

def counts : Nat → Nat := countsAfter 0 ws sg.waveCount r.vertexCounts r.countOrder

def vertCount : Nat := r.counts sg (0 + ws.waveCountInSubgroup)

def hasCulledVertices : Bool := decide (r.vertCount sg < sg.vertCountInSubgroup)

def compactedVertexIndex (t : Nat) : Nat := compactedIndex 0 ws (r.drawFlag cfg sg) (r.counts sg) t

def compactVertWrites (threads : Nat → VertexThread) : List (Nat × CullInfoField × Nat) :=
  if cfg.compactVertex && r.hasCulledVertices sg then
    ((List.range (sg.waveCount * ws.val)).filter (r.drawFlag cfg sg)).flatMap fun t =>
      (compactVertInfo cfg (threads t) (r.compactedVertexIndex cfg sg t)).map fun fv => (t, fv)
  else []

def indexMapWrites : List (Nat × Nat) :=
  if cfg.compactVertex && r.hasCulledVertices sg then
    indexMapStores (r.drawFlag cfg sg) (r.compactedVertexIndex cfg sg) (sg.waveCount * ws.val)
  else []

def cullInfoAfter : Nat → Nat :=
  runStores (runStores (runStores r.vertexCullInfo r.initDrawFlagOrder) r.drawFlagOrder) r.compactOrder

def indexMap : Nat → Nat := runStores r.vertexIndexMap r.indexMapOrder

def positionAfter : Nat → Nat := runStores r.vertexPosition r.positionOrder

structure Valid (culled : Nat → Bool) (threads : Nat → VertexThread) : Prop where
  position : r.positionOrder.Perm (writeVertPositionStores sg threads)
  initDrawFlag : r.initDrawFlagOrder.Perm (cullInfoStores cfg (initVertDrawFlagWrites sg))
  drawFlag : r.drawFlagOrder.Perm (cullInfoStores cfg (writeVertDrawFlagWrites sg culled))
  count : r.countOrder.Perm (countOps 0 ws (r.drawFlag cfg sg) sg.waveCount)
  compact : r.compactOrder.Perm (cullInfoStores cfg (r.compactVertWrites cfg sg threads))
  indexMap : r.indexMapOrder.Perm (r.indexMapWrites cfg sg)

end Run

def programOrder (cfg : PipelineConfig) (sg : Subgroup ws) (culled : Nat → Bool) (threads : Nat → VertexThread)
    (vertexPosition vertexCullInfo vertexCounts vertexIndexMap : Nat → Nat) : Run :=
  let r0 : Run := ⟨vertexPosition, vertexCullInfo, vertexCounts, vertexIndexMap, writeVertPositionStores sg threads,
    cullInfoStores cfg (initVertDrawFlagWrites sg), cullInfoStores cfg (writeVertDrawFlagWrites sg culled), [], [], []⟩
  let r1 : Run := { r0 with countOrder := countOps 0 ws (r0.drawFlag cfg sg) sg.waveCount }
  { r1 with
    compactOrder := cullInfoStores cfg (r1.compactVertWrites cfg sg threads)
    indexMapOrder := r1.indexMapWrites cfg sg }

theorem programOrder_valid (cfg : PipelineConfig) (sg : Subgroup ws) (culled : Nat → Bool)
    (threads : Nat → VertexThread) (vertexPosition vertexCullInfo vertexCounts vertexIndexMap : Nat → Nat) :
    (programOrder cfg sg culled threads vertexPosition vertexCullInfo vertexCounts vertexIndexMap).Valid cfg sg
      culled threads :=
  ⟨.refl _, .refl _, .refl _, .refl _, .refl _, .refl _⟩

structure AllocState where
  compactVertex : Bool  -- `m_compactVertex`.
  primitiveCulled : Nat → Bool
  fullyCulled : Bool
  primCountInSubgroup : Nat
  vertCountInSubgroup : Nat
  drawFlag : Nat → Bool  -- Read only without vertex compaction, as is `vertCountInWave`.
  vertCountInWave : Nat → Nat

structure Exports where
  allocReq : Nat  -- `M0` of the GS_ALLOC_REQ message wave 0 sends.
  primitive : Nat → Option Nat  -- The connectivity word thread `t` exports, if it exports one.
  vertex : Nat → Option Nat  -- The vertex whose deferred export thread `t` runs, if it runs one.

/-- What the hardware must receive from primitive thread `i`: `NullPrim` exactly
when the primitive is culled, otherwise a word with bit 31 clear whose three
index fields are below `vertCount` and name threads that export the
primitive's own vertices. -/
def ExportsPrimitive (out : Exports) (vertCount : Nat) (culled : Bool) (vertexIndex : Fin 3 → Nat) (i : Nat) :
    Prop :=
  ∃ word, out.primitive i = some word ∧ (word = NullPrim ↔ culled = true) ∧
    (culled = false → isNullPrim word = false ∧ ∃ idx : Fin 3 → Nat, vertexIndices word = (idx 0, idx 1, idx 2) ∧
      ∀ k, idx k < vertCount ∧ out.vertex (idx k) = some (vertexIndex k))

/-- The threads below `vertCount` export the vertices `drawn` selects, each
vertex from exactly one thread. -/
def ExportsDrawn (out : Exports) (vertCount : Nat) (drawn : Nat → Bool) : Prop :=
  (∀ t < vertCount, ∃ v, drawn v ∧ out.vertex t = some v) ∧
    (∀ v, drawn v → ∃ t < vertCount, out.vertex t = some v) ∧
    ∀ t < vertCount, ∀ u < vertCount, out.vertex t = out.vertex u → t = u

section Export

variable (cfg : PipelineConfig) (sg : Subgroup ws)

def runtimePassthroughState : AllocState :=
  ⟨false, fun _ => false, false, sg.primCountInSubgroup, sg.vertCountInSubgroup, fun _ => true,
    sg.vertCountInWave⟩

/-- `.endCompactVert`: a thread that did not run the cullers counts as culled;
a fully culled subgroup reports the dummy export count. -/
def cullingState (culled : Nat → Bool) (waNggCullingNoEmptySubgroups : Bool) (r : Run) : AllocState :=
  let fullyCulled := r.vertCount sg == 0
  { compactVertex := cfg.compactVertex && r.hasCulledVertices sg
    primitiveCulled := fun t => !decide (t < sg.primCountInSubgroup) || culled t
    fullyCulled
    primCountInSubgroup :=
      if fullyCulled then dummyExportCount waNggCullingNoEmptySubgroups else sg.primCountInSubgroup
    vertCountInSubgroup :=
      if fullyCulled then dummyExportCount waNggCullingNoEmptySubgroups
      else if cfg.compactVertex then r.vertCount sg else sg.vertCountInSubgroup
    drawFlag := r.drawFlag cfg sg
    vertCountInWave := countInWave ws (r.drawFlag cfg sg) }

/-- From `.checkAllocReq` on: wave 0 sends GS_ALLOC_REQ; under the workaround a
fully culled subgroup exits with thread 0's dummy primitive; otherwise the
primitive threads export connectivity and the vertex threads run deferred
export (`runPartEs`), of `VertexIndexMap[t]` when vertices were compacted. -/
def exportTail (waNggCullingNoEmptySubgroups : Bool) (st : AllocState) (cullInfo indexMap : Nat → Nat) :
    Exports :=
  let allocReq := gsAllocReqMessage st.vertCountInSubgroup st.primCountInSubgroup
  if waNggCullingNoEmptySubgroups && st.fullyCulled then
    ⟨allocReq, fun t => if t = 0 then some 0 else none, fun _ => none⟩
  else
    ⟨allocReq,
      fun t => if t < st.primCountInSubgroup then
          some (exportPrimitive cfg sg st.compactVertex cullInfo (st.primitiveCulled t) t)
        else none,
      fun t => if t < st.vertCountInSubgroup then
          if cfg.compactVertex then some (if st.compactVertex then indexMap t else t)
          else if st.vertCountInWave (t / ws.val) = 0 then none
          else if st.drawFlag t then some t else none
        else none⟩

def checkAllocReqState (culled : Nat → Bool) (waNggCullingNoEmptySubgroups runtimePassthrough : Bool) (r : Run) :
    AllocState :=
  if runtimePassthrough then runtimePassthroughState sg
  else cullingState cfg sg culled waNggCullingNoEmptySubgroups r

/-- `buildPrimShader` on one subgroup: runtime passthrough (constant position Z
or a small subgroup) skips culling; otherwise the draw flags, the counts and
the compaction of `r` decide the exports. The LDS is read only under
`m_compactVertex`, which runtime passthrough leaves false. -/
def buildPrimShader (culled : Nat → Bool) (waNggCullingNoEmptySubgroups runtimePassthrough : Bool) (r : Run) :
    Exports :=
  exportTail cfg sg waNggCullingNoEmptySubgroups
    (checkAllocReqState cfg sg culled waNggCullingNoEmptySubgroups runtimePassthrough r) r.cullInfoAfter r.indexMap

end Export

section Proofs

variable {cfg : PipelineConfig} {sg : Subgroup ws} {culled : Nat → Bool} {threads : Nat → VertexThread}
  {r : Run}

theorem drawFlag_mem_cullInfoFields (hcull : cfg.cullingMode = true) :
    CullInfoField.drawFlag ∈ cullInfoFields cfg := by
  simp [cullInfoFields, hcull]

theorem mem_cullInfoFields_of_compactVert (hcull : cfg.cullingMode = true) (hcv : cfg.compactVertex = true)
    {f : CullInfoField} (hf : f ∈ compactVertFields cfg) : f ∈ cullInfoFields cfg := by
  simp [cullInfoFields, hcull, hcv, hf]

theorem mem_initVertDrawFlagWrites {w : Nat × CullInfoField × Nat} :
    w ∈ initVertDrawFlagWrites sg ↔ w.1 < sg.vertCountInSubgroup ∧ w.2 = (.drawFlag, 0) := by
  simp only [initVertDrawFlagWrites, List.mem_map, List.mem_range]
  exact ⟨by rintro ⟨t, ht, rfl⟩; exact ⟨ht, rfl⟩, fun ⟨ht, h2⟩ => ⟨w.1, ht, Prod.ext rfl h2.symm⟩⟩

theorem mem_writeVertDrawFlagWrites {w : Nat × CullInfoField × Nat} :
    w ∈ writeVertDrawFlagWrites sg culled ↔ sg.referenced culled w.1 ∧ w.2 = (.drawFlag, 1) := by
  simp only [writeVertDrawFlagWrites, List.mem_flatMap, List.mem_filter, List.mem_range, List.mem_map,
    List.mem_finRange, true_and, Bool.not_eq_true', sg.referenced_iff]
  constructor
  · rintro ⟨i, ⟨hi, hc⟩, k, rfl⟩
    exact ⟨⟨i, hi, hc, k, rfl⟩, rfl⟩
  · rintro ⟨⟨i, hi, hc, k, hk⟩, h2⟩
    exact ⟨i, ⟨hi, hc⟩, k, Prod.ext hk h2.symm⟩

theorem Run.drawFlag_eq (hcull : cfg.cullingMode = true) (hr : r.Valid cfg sg culled threads) :
    r.drawFlag cfg sg = sg.referenced culled := by
  have hdf := drawFlag_mem_cullInfoFields hcull
  have hinit : ∀ w ∈ initVertDrawFlagWrites sg, w.2.1 ∈ cullInfoFields cfg ∧ w.2.1 ≠ .xfbOutputs :=
    fun w hw => by rw [(mem_initVertDrawFlagWrites.mp hw).2]; exact ⟨hdf, by decide⟩
  have hwrite : ∀ w ∈ writeVertDrawFlagWrites sg culled, w.2.1 ∈ cullInfoFields cfg ∧ w.2.1 ≠ .xfbOutputs :=
    fun w hw => by rw [(mem_writeVertDrawFlagWrites.mp hw).2]; exact ⟨hdf, by decide⟩
  funext t
  unfold Run.drawFlag checkVertDrawFlag
  by_cases ht : sg.referenced culled t
  · rw [runStores_cullInfo_of_agree hcull hwrite _ hr.drawFlag hdf (by decide)
      ⟨(t, .drawFlag, 1), mem_writeVertDrawFlagWrites.mpr ⟨ht, rfl⟩, rfl⟩
      fun w hw _ => by rw [(mem_writeVertDrawFlagWrites.mp hw).2]]
    simp [sg.lt_of_referenced ht, ht]
  · rw [runStores_cullInfo_of_fresh hcull hwrite _ hr.drawFlag hdf (by decide)
      fun w hw he => ht (by rw [← (Prod.mk.inj he).1]; exact (mem_writeVertDrawFlagWrites.mp hw).1)]
    by_cases htV : t < sg.vertCountInSubgroup
    · rw [runStores_cullInfo_of_agree hcull hinit _ hr.initDrawFlag hdf (by decide)
        ⟨(t, .drawFlag, 0), mem_initVertDrawFlagWrites.mpr ⟨htV, rfl⟩, rfl⟩
        fun w hw _ => by rw [(mem_initVertDrawFlagWrites.mp hw).2]]
      simp [ht]
    · simp [htV, ht]

theorem Run.positionAfter_eq (hr : r.Valid cfg sg culled threads) {u : Nat} (hu : u < sg.vertCountInSubgroup)
    (c : Fin 4) : r.positionAfter (4 * u + c.val) = (threads u).position c := by
  have hnd : ((writeVertPositionStores sg threads).map Prod.fst).Nodup := by
    simp only [writeVertPositionStores, List.map_flatMap, List.map_map]
    refine List.nodup_flatMap.mpr ⟨fun t _ => (List.nodup_finRange 4).map fun a b h => Fin.ext ?_,
      (List.pairwise_lt_range _).imp fun {t t'} htt' => ?_⟩
    · simp only [Function.comp_apply] at h
      omega
    · simp only [Function.onFun, List.disjoint_left, List.mem_map, List.mem_finRange, true_and,
        Function.comp_apply]
      rintro _ ⟨a, rfl⟩ ⟨b, h⟩
      have := a.isLt
      have := b.isLt
      omega
  exact runStores_of_mem _ ((hr.position.map Prod.fst).nodup_iff.mpr hnd) (hr.position.mem_iff.mpr
    (List.mem_flatMap.mpr ⟨u, List.mem_range.mpr hu, List.mem_map.mpr ⟨c, List.mem_finRange c, rfl⟩⟩))

theorem Run.Valid.countSchedule (hr : r.Valid cfg sg culled threads) :
    r.countOrder.Perm (countOps 0 ws (r.drawFlag cfg sg) sg.waveCount ++ []) :=
  hr.count.trans (List.Perm.of_eq (List.append_nil _).symm)

theorem count_eq_of_lt {p : Nat → Bool} {n N : Nat} (h : ∀ t, p t → t < n) (hN : n ≤ N) :
    Nat.count (fun t => p t) N = Nat.count (fun t => p t) n := by
  induction N, hN using Nat.le_induction with
  | base => rfl
  | succ N hnN ih => rw [Nat.count_succ, ih, if_neg fun hp => absurd (h N hp) (by omega), Nat.add_zero]

theorem forall_of_count_eq {p : Nat → Bool} {n : Nat} (h : Nat.count (fun t => p t) n = n) :
    ∀ t < n, p t := by
  induction n with
  | zero => intro t ht; omega
  | succ n ih =>
    have hle : Nat.count (fun t => p t) n ≤ n := Nat.count_le _
    rw [Nat.count_succ] at h
    split_ifs at h with hn
    · intro t ht
      rcases Nat.lt_succ_iff_lt_or_eq.mp ht with ht | rfl
      · exact ih (by omega) t ht
      · exact hn
    · omega

theorem Run.vertCount_eq (hcull : cfg.cullingMode = true) (hr : r.Valid cfg sg culled threads) :
    r.vertCount sg = sg.referencedCount culled := by
  rw [Run.vertCount, Run.counts, countsAfter_total sg.waveCount_pos r.vertexCounts hr.countSchedule
    (fun _ h => absurd h (List.not_mem_nil _)) sg.waveCount_le, Run.drawFlag_eq hcull hr]
  exact count_eq_of_lt (fun _ => sg.lt_of_referenced) sg.vertCount_le

theorem Run.compactedVertexIndex_rank (hr : r.Valid cfg sg culled threads) {t : Nat}
    (ht : t < sg.waveCount * ws.val) :
    r.compactedVertexIndex cfg sg t = Nat.count (fun u => r.drawFlag cfg sg u) t :=
  compactedIndex_rank sg.waveCount_pos r.vertexCounts hr.countSchedule
    (fun _ h => absurd h (List.not_mem_nil _)) sg.waveCount_le ht

theorem Run.compactVertWrites_pairs (r : Run) :
    (r.compactVertWrites cfg sg threads).map (fun w => (w.1, w.2.1)) =
      if cfg.compactVertex && r.hasCulledVertices sg then
        List.product ((List.range (sg.waveCount * ws.val)).filter (r.drawFlag cfg sg)) (compactVertFields cfg)
      else [] := by
  unfold Run.compactVertWrites
  split_ifs
  · simp only [List.map_flatMap, List.map_map, List.product]
    congr 1
    funext t
    rw [← compactVertInfo_fields cfg (threads t) (r.compactedVertexIndex cfg sg t), List.map_map]
    rfl
  · rfl

section Compacted

variable (hcull : cfg.cullingMode = true) (hr : r.Valid cfg sg culled threads)
  (hcv : cfg.compactVertex = true) (hhc : r.hasCulledVertices sg = true)
include hcull hr hcv hhc

theorem Run.cullInfoAfter_of_mem {v : Nat} (hv : sg.referenced culled v) {f : CullInfoField} {value : Nat}
    (hfv : (f, value) ∈ compactVertInfo cfg (threads v) (r.compactedVertexIndex cfg sg v)) :
    r.cullInfoAfter (cullInfoAddr cfg v f) = value := by
  have hon : (cfg.compactVertex && r.hasCulledVertices sg) = true := by simp [hcv, hhc]
  have hpairs := @Run.compactVertWrites_pairs ws cfg sg threads r
  rw [if_pos hon] at hpairs
  have hfields : ∀ w ∈ r.compactVertWrites cfg sg threads, w.2.1 ∈ cullInfoFields cfg ∧ w.2.1 ≠ .xfbOutputs := by
    intro w hw
    have hf : w.2.1 ∈ compactVertFields cfg :=
      (List.mem_product.mp (hpairs ▸ List.mem_map_of_mem (fun w : Nat × CullInfoField × Nat => (w.1, w.2.1)) hw)).2
    exact ⟨mem_cullInfoFields_of_compactVert hcull hcv hf, (compactVertFields_ne cfg hf).1⟩
  have hvm : v < sg.waveCount * ws.val := lt_of_lt_of_le (sg.lt_of_referenced hv) sg.vertCount_le
  have hflag : r.drawFlag cfg sg v = true := by rw [Run.drawFlag_eq hcull hr]; exact hv
  have hmem : (v, f, value) ∈ r.compactVertWrites cfg sg threads := by
    rw [Run.compactVertWrites, if_pos hon]
    exact List.mem_flatMap.mpr ⟨v, List.mem_filter.mpr ⟨List.mem_range.mpr hvm, hflag⟩,
      List.mem_map.mpr ⟨_, hfv, rfl⟩⟩
  exact runStores_cullInfo_of_mem hcull hfields _ hr.compact
    (hpairs ▸ ((List.nodup_range _).filter _).product (compactVertFields_nodup cfg)) hmem

theorem Run.cullInfoAfter_compacted {v : Nat} (hv : sg.referenced culled v) :
    r.cullInfoAfter (cullInfoAddr cfg v .compactedVertexIndex) = Nat.count (fun u => sg.referenced culled u) v := by
  rw [Run.cullInfoAfter_of_mem hcull hr hcv hhc hv (List.mem_cons_self _ _),
    Run.compactedVertexIndex_rank hr (lt_of_lt_of_le (sg.lt_of_referenced hv) sg.vertCount_le),
    Run.drawFlag_eq hcull hr]

theorem Run.indexMap_rank {v : Nat} (hv : sg.referenced culled v) :
    r.indexMap (Nat.count (fun u => sg.referenced culled u) v) = v := by
  have horder : r.indexMapOrder.Perm
      (indexMapStores (r.drawFlag cfg sg) (r.compactedVertexIndex cfg sg) (sg.waveCount * ws.val)) := by
    have h := hr.indexMap
    rwa [Run.indexMapWrites, if_pos (by simp [hcv, hhc])] at h
  have hvm : v < sg.waveCount * ws.val := lt_of_lt_of_le (sg.lt_of_referenced hv) sg.vertCount_le
  have h := runStores_indexMapStores (fun _ ht => Run.compactedVertexIndex_rank hr ht) r.vertexIndexMap
    horder hvm (by rw [Run.drawFlag_eq hcull hr]; exact hv)
  rwa [Run.compactedVertexIndex_rank hr hvm, Run.drawFlag_eq hcull hr] at h

end Compacted

theorem countInWave_ne_zero {flag : Nat → Bool} {t : Nat} (h : flag t) : countInWave ws flag (t / ws.val) ≠ 0 := by
  rw [countInWave_eq]
  have hl : waveFlag ws flag (t / ws.val) (t % ws.val) = true := by
    simp only [waveFlag, threadIdInSubgroup]
    rwa [Nat.div_add_mod']
  have := @Nat.count_strict_mono (fun lane => waveFlag ws flag (t / ws.val) lane = true) _ _ _ hl
    (Nat.mod_lt t ws.val_pos)
  omega

theorem exportsPrimitive_of_exportPrimitive {out : Exports} {vertCount : Nat} (hvc : vertCount < 2 ^ 9)
    {compactVertex : Bool} {cullInfo : Nat → Nat} {c : Bool} {i : Nat}
    (hprim : out.primitive i = some (exportPrimitive cfg sg compactVertex cullInfo c i))
    (hkept : c = false → ∀ k,
      (if compactVertex then cullInfo (cullInfoAddr cfg (sg.vertexIndex i k) .compactedVertexIndex)
        else sg.vertexIndex i k) < vertCount ∧
      out.vertex (if compactVertex then cullInfo (cullInfoAddr cfg (sg.vertexIndex i k) .compactedVertexIndex)
        else sg.vertexIndex i k) = some (sg.vertexIndex i k)) :
    ExportsPrimitive out vertCount c (sg.vertexIndex i) i := by
  cases c with
  | true => exact ⟨NullPrim, hprim, by simp, fun h => absurd h (by decide)⟩
  | false =>
    let idx : Fin 3 → Nat := fun k =>
      if compactVertex then cullInfo (cullInfoAddr cfg (sg.vertexIndex i k) .compactedVertexIndex)
      else sg.vertexIndex i k
    have hword : exportPrimitive cfg sg compactVertex cullInfo false i = primitiveData (idx 0) (idx 1) (idx 2) :=
      rfl
    have hk := hkept rfl
    have hlt : ∀ k, idx k < 2 ^ 9 := fun k => lt_trans (hk k).1 hvc
    have hnull := isNullPrim_primitiveData (hlt 0) (hlt 1) (hlt 2)
    rw [hword] at hprim
    refine ⟨_, hprim, ⟨fun h => ?_, fun h => absurd h (by decide)⟩, fun _ => ⟨hnull,
      idx, vertexIndices_primitiveData (hlt 0) (hlt 1) (hlt 2), hk⟩⟩
    rw [h, isNullPrim_NullPrim] at hnull
    exact absurd hnull (by decide)

theorem runtimePassthrough_vertex (waNggCullingNoEmptySubgroups : Bool) (cullInfo indexMap : Nat → Nat)
    {t : Nat} (ht : t < sg.vertCountInSubgroup) :
    (exportTail cfg sg waNggCullingNoEmptySubgroups (runtimePassthroughState sg) cullInfo indexMap).vertex t =
      some t := by
  have hw : sg.vertCountInWave (t / ws.val) ≠ 0 := by
    have := Nat.div_mul_le_self t ws.val
    have := ws.val_pos
    unfold Subgroup.vertCountInWave
    omega
  simp [exportTail, runtimePassthroughState, ht, hw]

section Culled

variable (hcull : cfg.cullingMode = true) (hr : r.Valid cfg sg culled threads)
include hcull hr

theorem buildPrimShader_fullyCulled (waNggCullingNoEmptySubgroups : Bool) (hD : sg.referencedCount culled = 0) :
    (buildPrimShader cfg sg culled waNggCullingNoEmptySubgroups false r).allocReq =
        gsAllocReqMessage (dummyExportCount waNggCullingNoEmptySubgroups)
          (dummyExportCount waNggCullingNoEmptySubgroups) ∧
      ∀ t, (buildPrimShader cfg sg culled waNggCullingNoEmptySubgroups false r).vertex t = none := by
  have hfc : r.vertCount sg = 0 := (Run.vertCount_eq hcull hr).trans hD
  cases waNggCullingNoEmptySubgroups <;>
    simp [buildPrimShader, checkAllocReqState, exportTail, cullingState, hfc, dummyExportCount]

variable (hD : sg.referencedCount culled ≠ 0)
include hD

theorem culling_vertex (waNggCullingNoEmptySubgroups : Bool) {v : Nat} (hv : sg.referenced culled v) :
    (if cfg.compactVertex && r.hasCulledVertices sg then Nat.count (fun u => sg.referenced culled u) v else v) <
        (if cfg.compactVertex then sg.referencedCount culled else sg.vertCountInSubgroup) ∧
      (buildPrimShader cfg sg culled waNggCullingNoEmptySubgroups false r).vertex
        (if cfg.compactVertex && r.hasCulledVertices sg then Nat.count (fun u => sg.referenced culled u) v else v) =
        some v := by
  have hvc := Run.vertCount_eq hcull hr
  have hvV := sg.lt_of_referenced hv
  have hDV : sg.referencedCount culled ≤ sg.vertCountInSubgroup := Nat.count_le _
  cases hcv : cfg.compactVertex
  · have hflag : r.drawFlag cfg sg v = true := by rw [Run.drawFlag_eq hcull hr]; exact hv
    simp [buildPrimShader, checkAllocReqState, exportTail, cullingState, hvc, hD, hcv, hvV, hflag,
      countInWave_ne_zero hflag]
  · cases hhc : r.hasCulledVertices sg
    · have hDeq : sg.referencedCount culled = sg.vertCountInSubgroup := by
        simp only [Run.hasCulledVertices, decide_eq_false_iff_not, hvc] at hhc
        omega
      have hV0 : sg.vertCountInSubgroup ≠ 0 := by omega
      simp [buildPrimShader, checkAllocReqState, exportTail, cullingState, hcv, hhc, hvc, hDeq, hvV, hV0]
    · have hrank : Nat.count (fun u => sg.referenced culled u) v < sg.referencedCount culled :=
        Nat.count_strict_mono hv hvV
      simp [buildPrimShader, checkAllocReqState, exportTail, cullingState, hcv, hhc, hvc, hD, hrank,
        Run.indexMap_rank hcull hr hcv hhc hv]

theorem culling_primitive (waNggCullingNoEmptySubgroups : Bool) {i : Nat} (hi : i < sg.primCountInSubgroup) :
    ExportsPrimitive (buildPrimShader cfg sg culled waNggCullingNoEmptySubgroups false r)
      (if cfg.compactVertex then sg.referencedCount culled else sg.vertCountInSubgroup) (culled i)
      (sg.vertexIndex i) i := by
  have hvc := Run.vertCount_eq hcull hr
  have hDV : sg.referencedCount culled ≤ sg.vertCountInSubgroup := Nat.count_le _
  have h9 := sg.vertCount_lt_two_pow
  have hprim : (buildPrimShader cfg sg culled waNggCullingNoEmptySubgroups false r).primitive i =
      some (exportPrimitive cfg sg (cfg.compactVertex && r.hasCulledVertices sg) r.cullInfoAfter (culled i) i) := by
    simp [buildPrimShader, checkAllocReqState, exportTail, cullingState, hvc, hD, hi]
  refine exportsPrimitive_of_exportPrimitive (by split_ifs <;> omega) hprim fun hc k => ?_
  have hv := sg.referenced_vertexIndex hi hc k
  have hidx : (if cfg.compactVertex && r.hasCulledVertices sg then
        r.cullInfoAfter (cullInfoAddr cfg (sg.vertexIndex i k) .compactedVertexIndex) else sg.vertexIndex i k) =
      if cfg.compactVertex && r.hasCulledVertices sg then
        Nat.count (fun u => sg.referenced culled u) (sg.vertexIndex i k) else sg.vertexIndex i k := by
    split_ifs with h
    · rw [Bool.and_eq_true] at h
      exact Run.cullInfoAfter_compacted hcull hr h.1 h.2 hv
    · rfl
  rw [hidx]
  exact culling_vertex hcull hr hD waNggCullingNoEmptySubgroups hv

theorem culling_vertex_indexMap (waNggCullingNoEmptySubgroups : Bool) (hcv : cfg.compactVertex = true)
    (hhc : r.hasCulledVertices sg = true) {t : Nat} (ht : t < sg.referencedCount culled) :
    (buildPrimShader cfg sg culled waNggCullingNoEmptySubgroups false r).vertex t = some (r.indexMap t) ∧
      sg.referenced culled (r.indexMap t) := by
  have hvc := Run.vertCount_eq hcull hr
  refine ⟨by simp [buildPrimShader, checkAllocReqState, exportTail, cullingState, hcv, hhc, hvc, hD, ht], ?_⟩
  obtain ⟨v, -, hv, rfl⟩ := exists_count_eq ht
  rwa [Run.indexMap_rank hcull hr hcv hhc hv]

theorem culling_compacted (waNggCullingNoEmptySubgroups : Bool) (hcv : cfg.compactVertex = true) :
    ExportsDrawn (buildPrimShader cfg sg culled waNggCullingNoEmptySubgroups false r) (sg.referencedCount culled)
      (sg.referenced culled) := by
  have hvc := Run.vertCount_eq hcull hr
  have hDV : sg.referencedCount culled ≤ sg.vertCountInSubgroup := Nat.count_le _
  cases hhc : r.hasCulledVertices sg
  · -- nothing culled: every vertex is used and every thread exports its own
    have hDeq : sg.referencedCount culled = sg.vertCountInSubgroup := by
      simp only [Run.hasCulledVertices, decide_eq_false_iff_not, hvc] at hhc
      omega
    have hall := forall_of_count_eq hDeq
    have hout : ∀ t < sg.referencedCount culled,
        (buildPrimShader cfg sg culled waNggCullingNoEmptySubgroups false r).vertex t = some t := fun t ht => by
      simp [buildPrimShader, checkAllocReqState, exportTail, cullingState, hcv, hhc, hvc, hD, ht]
    refine ⟨fun t ht => ⟨t, hall t (hDeq ▸ ht), hout t ht⟩,
      fun v hv => ⟨v, hDeq ▸ sg.lt_of_referenced hv, hout v (hDeq ▸ sg.lt_of_referenced hv)⟩,
      fun t ht u hu h => ?_⟩
    rw [hout t ht, hout u hu] at h
    exact Option.some.inj h
  · -- compacted: thread `t` exports the used vertex of rank `t`
    have hrank : ∀ t < sg.referencedCount culled,
        ∃ v, sg.referenced culled v ∧ Nat.count (fun u => sg.referenced culled u) v = t := fun t ht => by
      obtain ⟨v, -, hv, he⟩ := exists_count_eq ht
      exact ⟨v, hv, he⟩
    have hout := fun t (ht : t < sg.referencedCount culled) =>
      (culling_vertex_indexMap hcull hr hD waNggCullingNoEmptySubgroups hcv hhc ht).1
    refine ⟨fun t ht => ?_, fun v hv => ?_, fun t ht u hu h => ?_⟩
    · obtain ⟨v, hv, rfl⟩ := hrank t ht
      exact ⟨v, hv, by rw [hout _ ht, Run.indexMap_rank hcull hr hcv hhc hv]⟩
    · have := culling_vertex hcull hr hD waNggCullingNoEmptySubgroups hv
      simp only [hcv, hhc, Bool.and_self, if_true] at this
      exact ⟨_, this⟩
    · obtain ⟨v, hv, rfl⟩ := hrank t ht
      obtain ⟨v', hv', rfl⟩ := hrank u hu
      rw [hout _ ht, hout _ hu, Run.indexMap_rank hcull hr hcv hhc hv, Run.indexMap_rank hcull hr hcv hhc hv'] at h
      rw [Option.some.inj h]

end Culled

theorem runtimePassthrough_primitive (waNggCullingNoEmptySubgroups : Bool) (r : Run) {i : Nat}
    (hi : i < sg.primCountInSubgroup) :
    ExportsPrimitive (buildPrimShader cfg sg culled waNggCullingNoEmptySubgroups true r) sg.vertCountInSubgroup
      false (sg.vertexIndex i) i :=
  exportsPrimitive_of_exportPrimitive sg.vertCount_lt_two_pow
    (show _ = some (exportPrimitive cfg sg false r.cullInfoAfter false i) by
      simp [buildPrimShader, checkAllocReqState, exportTail, runtimePassthroughState, hi])
    fun _ k => ⟨sg.vertexIndex_lt i hi k,
      runtimePassthrough_vertex waNggCullingNoEmptySubgroups _ _ (sg.vertexIndex_lt i hi k)⟩

/-- The culling path without API GS, for every subgroup, every outcome of the
cullers, vertex compaction on or off, runtime passthrough or not, and every
interleaving of the LDS phases. Let `D` count the vertices kept primitives use.
If culling ran and `D = 0`, GS_ALLOC_REQ carries the dummy export count twice
and no thread runs deferred export. Otherwise GS_ALLOC_REQ decodes to `V'` and
the primitive count, `V'` being `D` with compaction and the vertex count
without; each primitive thread exports `NullPrim` exactly when its primitive
was culled, and otherwise a word whose index fields, below `V'`, name the
threads exporting its own vertices; with compaction the threads below `V'`
export the `D` used vertices, one each. -/
theorem buildPrimShader_exports (hcull : cfg.cullingMode = true) (waNggCullingNoEmptySubgroups runtimePassthrough : Bool)
    (hr : r.Valid cfg sg culled threads) :
    (runtimePassthrough = false ∧ sg.referencedCount culled = 0 →
      (buildPrimShader cfg sg culled waNggCullingNoEmptySubgroups runtimePassthrough r).allocReq =
          gsAllocReqMessage (dummyExportCount waNggCullingNoEmptySubgroups)
            (dummyExportCount waNggCullingNoEmptySubgroups) ∧
        ∀ t, (buildPrimShader cfg sg culled waNggCullingNoEmptySubgroups runtimePassthrough r).vertex t = none) ∧
    (¬ (runtimePassthrough = false ∧ sg.referencedCount culled = 0) →
      let out := buildPrimShader cfg sg culled waNggCullingNoEmptySubgroups runtimePassthrough r
      let vertCount :=
        if !runtimePassthrough && cfg.compactVertex then sg.referencedCount culled else sg.vertCountInSubgroup
      createUBfe out.allocReq 0 11 = vertCount ∧ createUBfe out.allocReq 12 11 = sg.primCountInSubgroup ∧
        (∀ i < sg.primCountInSubgroup,
          ExportsPrimitive out vertCount (!runtimePassthrough && culled i) (sg.vertexIndex i) i) ∧
        ((!runtimePassthrough && cfg.compactVertex) = true → ExportsDrawn out vertCount (sg.referenced culled))) := by
  have h9 := sg.vertCount_lt_two_pow
  have hp9 := sg.primCount_lt_two_pow
  cases runtimePassthrough with
  | false =>
    refine ⟨fun h => buildPrimShader_fullyCulled hcull hr waNggCullingNoEmptySubgroups h.2, fun h => ?_⟩
    have hD : sg.referencedCount culled ≠ 0 := fun h0 => h ⟨rfl, h0⟩
    have hvc := Run.vertCount_eq hcull hr
    have hDV : sg.referencedCount culled ≤ sg.vertCountInSubgroup := Nat.count_le _
    have hmsg : (buildPrimShader cfg sg culled waNggCullingNoEmptySubgroups false r).allocReq =
        gsAllocReqMessage (if cfg.compactVertex then sg.referencedCount culled else sg.vertCountInSubgroup)
          sg.primCountInSubgroup := by
      simp [buildPrimShader, checkAllocReqState, exportTail, cullingState, hvc, hD]
    have hfields := gsAllocReqMessage_fields
      (show (if cfg.compactVertex then sg.referencedCount culled else sg.vertCountInSubgroup) < 2 ^ 11 by
        split_ifs <;> omega) (show sg.primCountInSubgroup < 2 ^ 11 by omega)
    dsimp only
    rw [hmsg]
    refine ⟨hfields.1, hfields.2, fun i hi => culling_primitive hcull hr hD waNggCullingNoEmptySubgroups hi,
      fun hcv => ?_⟩
    rw [if_pos hcv]
    exact culling_compacted hcull hr hD waNggCullingNoEmptySubgroups (by simpa using hcv)
  | true =>
    refine ⟨fun h => absurd h.1 (by decide), fun _ => ?_⟩
    have hmsg : (buildPrimShader cfg sg culled waNggCullingNoEmptySubgroups true r).allocReq =
        gsAllocReqMessage sg.vertCountInSubgroup sg.primCountInSubgroup := by
      simp [buildPrimShader, checkAllocReqState, exportTail, runtimePassthroughState]
    have hfields := gsAllocReqMessage_fields (show sg.vertCountInSubgroup < 2 ^ 11 by omega)
      (show sg.primCountInSubgroup < 2 ^ 11 by omega)
    dsimp only
    rw [hmsg]
    exact ⟨hfields.1, hfields.2, fun i hi => runtimePassthrough_primitive waNggCullingNoEmptySubgroups r hi,
      fun h => by simp at h⟩

end Proofs

def compactingConfig : PipelineConfig :=
  { hasGs := false, passthroughMode := false, enableSwXfb := false, xfbOutputExpCount := 0,
    enableCullDistanceCulling := false, compactVertex := true, hasTes := false, tessCoord := false,
    tesPrimitiveId := false, vertexIndex := false, instanceIndex := false, vsPrimitiveId := false,
    inputMapLocCount := 0 }

def stripSubgroup : Subgroup WaveSize.wave32 :=
  ⟨4, 2, 1, fun i k => i + k.val, le_rfl, by decide, by decide, by decide, by decide⟩

theorem buildPrimShader_exports_compacted :
    let culled : Nat → Bool := fun i => i == 0
    let threads : Nat → VertexThread := fun _ => ⟨fun _ => 0, 0, fun _ => 0⟩
    let r := programOrder compactingConfig stripSubgroup culled threads (fun _ => 0) (fun _ => 0) (fun _ => 0)
      (fun _ => 0)
    (buildPrimShader compactingConfig stripSubgroup culled false false r).primitive 0 = some NullPrim ∧
    (buildPrimShader compactingConfig stripSubgroup culled false false r).vertex 0 = some 1 ∧
    (buildPrimShader compactingConfig stripSubgroup culled false false r).vertex 3 = none ∧
    compactingConfig.cullingMode = true ∧ r.Valid compactingConfig stripSubgroup culled threads ∧
    (false = false ∧ stripSubgroup.referencedCount culled = 0 →
      (buildPrimShader compactingConfig stripSubgroup culled false false r).allocReq =
          gsAllocReqMessage (dummyExportCount false) (dummyExportCount false) ∧
        ∀ t, (buildPrimShader compactingConfig stripSubgroup culled false false r).vertex t = none) ∧
    (¬ (false = false ∧ stripSubgroup.referencedCount culled = 0) →
      let out := buildPrimShader compactingConfig stripSubgroup culled false false r
      let vertCount := if !false && compactingConfig.compactVertex then stripSubgroup.referencedCount culled
        else stripSubgroup.vertCountInSubgroup
      createUBfe out.allocReq 0 11 = vertCount ∧
        createUBfe out.allocReq 12 11 = stripSubgroup.primCountInSubgroup ∧
        (∀ i < stripSubgroup.primCountInSubgroup,
          ExportsPrimitive out vertCount (!false && culled i) (stripSubgroup.vertexIndex i) i) ∧
        ((!false && compactingConfig.compactVertex) = true →
          ExportsDrawn out vertCount (stripSubgroup.referenced culled))) :=
  ⟨by decide, by decide, by decide, rfl, programOrder_valid _ _ _ _ _ _ _ _,
    buildPrimShader_exports (show compactingConfig.cullingMode = true from rfl) false false
      (programOrder_valid _ _ _ _ _ _ _ _)⟩

end NggPrimShader.Es.Culling
