import NggPrimShader.Es.CullInfo
import Mathlib.Logic.Function.Basic

/-! The LDS phases of the three primitive-shader builders. Each builder is read
as the list of LDS accesses and subgroup barriers its blocks emit, in program
order; a subgroup runs that list in every wave at once, and a wave leaves a
barrier only when every wave has reached it. Two regions that
`layoutPrimShaderLds` places on the same dwords are never touched between the
same two barriers, so in every schedule a barrier that all waves reach falls
between any access to one of them and any later access to the other. -/
namespace NggPrimShader.Lds.Phases

open NggPrimShader.Es.CullInfo

/-- `PrimShaderLdsRegion`, whose declaration is outside the sources: the regions
the builders name. -/
inductive LdsRegion
  | esGsRing
  | primitiveData
  | primitiveCounts
  | primitiveIndexMap
  | vertexCounts
  | vertexIndexMap
  | xfbStats
  | gsVsRing
  | distributedPrimitiveId
  | xfbOutput
  | vertexPosition
  | vertexCullInfo
  deriving DecidableEq, Repr

inductive Access
  | read
  | write
  | atomic
  deriving DecidableEq, Repr

/-- One LDS step of a builder. A block that touches a region several times (per
stream, per vertex of a primitive) is one access: which regions lie between two
barriers is all that phases depend on. An access that only some lanes or waves
perform is listed unconditionally. -/
inductive Step
  | access (kind : Access) (region : LdsRegion)
  -- `s_barrier`; `fenced` when emitted by `createFenceAndBarrier`, which wraps
  -- it in a release and an acquire fence.
  | barrier (fenced : Bool)
  deriving DecidableEq, Repr

def Step.touches (r : LdsRegion) : Step → Bool
  | .access _ r' => r' == r
  | .barrier _ => false

def fenceAndBarrier : Step := .barrier true

def distributePrimitiveId (cfg : PipelineConfig) : Bool :=
  !cfg.hasGs && !cfg.hasTes && cfg.vsPrimitiveId

def distributePrimitiveIdSteps : List Step :=
  [.access .write .distributedPrimitiveId, fenceAndBarrier,
   .access .read .distributedPrimitiveId, fenceAndBarrier]

def processSwXfb (passthroughMode : Bool) : List Step :=
  let outputs := if passthroughMode then LdsRegion.xfbOutput else .vertexCullInfo
  [.access .write outputs, .access .write .xfbStats, fenceAndBarrier,
   .access .read .xfbStats, .access .read outputs]

def buildPassthroughPrimShader (cfg : PipelineConfig) : List Step :=
  (if distributePrimitiveId cfg then distributePrimitiveIdSteps else []) ++
    (if cfg.enableSwXfb then processSwXfb true else [])

def cullingSteps (cfg : PipelineConfig) : List Step :=
  [.access .write .vertexCullInfo, .access .write .vertexCounts, .access .write .vertexPosition] ++
    (if cfg.enableCullDistanceCulling then [.access .write .vertexCullInfo] else []) ++
    [fenceAndBarrier, .access .read .vertexPosition] ++
    (if cfg.enableCullDistanceCulling then [.access .read .vertexCullInfo] else []) ++
    [.access .write .vertexCullInfo, fenceAndBarrier,
     .access .read .vertexCullInfo, .access .atomic .vertexCounts, fenceAndBarrier,
     .access .read .vertexCounts] ++
    (if cfg.compactVertex then [.access .write .vertexIndexMap, .access .write .vertexCullInfo]
     else [])

def exportSteps (cfg : PipelineConfig) : List Step :=
  if cfg.compactVertex then
    [.access .read .vertexCullInfo, .access .read .vertexIndexMap,
     .access .read .vertexPosition, .access .read .vertexCullInfo]
  else []

/-- `buildPrimShader` after the primitive-ID distribution, under the two
subgroup-uniform branches it takes at run time: runtime passthrough, and the
early exit of a fully culled subgroup under `waNggCullingNoEmptySubgroups`.
`.runtimePassthrough` emits a plain `s_barrier` when no primitive ID was
distributed; `.endAllocReq` ends the last phase. -/
def buildPrimShaderTail (cfg : PipelineConfig) (runtimePassthrough earlyExit : Bool) : List Step :=
  (if cfg.enableSwXfb then processSwXfb false else []) ++
    ((if runtimePassthrough then (if distributePrimitiveId cfg then [] else [.barrier false])
      else cullingSteps cfg) ++
    fenceAndBarrier :: (if earlyExit then [] else exportSteps cfg))

def buildPrimShader (cfg : PipelineConfig) (runtimePassthrough earlyExit : Bool) : List Step :=
  (if distributePrimitiveId cfg then distributePrimitiveIdSteps else []) ++
    buildPrimShaderTail cfg runtimePassthrough earlyExit

def processSwXfbWithGsHead : List Step :=
  [.access .write .primitiveCounts, fenceAndBarrier,
   .access .read .primitiveData, .access .atomic .primitiveCounts, fenceAndBarrier,
   .access .read .primitiveCounts, .access .write .primitiveIndexMap,
   .access .read .gsVsRing, .access .write .xfbStats]

def processSwXfbWithGsTail : List Step :=
  [.access .read .xfbStats, .access .read .primitiveIndexMap,
   .access .read .primitiveData, .access .read .gsVsRing]

def processSwXfbWithGs : List Step :=
  processSwXfbWithGsHead ++ fenceAndBarrier :: processSwXfbWithGsTail

def gsSteps : List Step :=
  [.access .write .esGsRing, .access .write .primitiveData, fenceAndBarrier,
   .access .read .esGsRing, .access .write .gsVsRing, .access .write .primitiveData]

def gsOutputSteps (cfg : PipelineConfig) : List Step :=
  (if !cfg.passthroughMode then
    [.access .read .primitiveData, .access .read .gsVsRing, .access .write .primitiveData,
     fenceAndBarrier]
   else []) ++
    [.access .read .primitiveData, .access .atomic .vertexCounts, fenceAndBarrier] ++
    (if cfg.compactVertex then
      [.access .read .vertexCounts, .access .write .vertexIndexMap, fenceAndBarrier]
     else []) ++
    .access .read .primitiveData ::
    (if cfg.compactVertex then [.access .read .vertexIndexMap] else []) ++
    [.access .read .gsVsRing]

def buildPrimShaderWithGs (cfg : PipelineConfig) : List Step :=
  gsSteps ++ ((if cfg.enableSwXfb then processSwXfbWithGs else []) ++
    (.access .write .vertexCounts :: fenceAndBarrier :: gsOutputSteps cfg))

def primShaderSteps (cfg : PipelineConfig) (runtimePassthrough earlyExit : Bool) : List Step :=
  if cfg.hasGs then buildPrimShaderWithGs cfg
  else if cfg.passthroughMode then buildPassthroughPrimShader cfg
  else buildPrimShader cfg runtimePassthrough earlyExit

/-- The regions `layoutPrimShaderLds` places on the same dwords: under API GS
with SW XFB, `VertexCounts` and `VertexIndexMap` are given the ranges of
`PrimitiveCounts` and `PrimitiveIndexMap`; without API GS,
`DistributedPrimitiveId` starts at 0 and `ldsOffset` is reset to 0 for
`XfbOutput` (passthrough) or `VertexPosition` (culling). -/
def overlappedRegions (cfg : PipelineConfig) : List (LdsRegion × LdsRegion) :=
  if cfg.hasGs then
    (if cfg.enableSwXfb then [(.vertexCounts, .primitiveCounts)] else []) ++
      (if cfg.enableSwXfb && cfg.compactVertex then [(.vertexIndexMap, .primitiveIndexMap)] else [])
  else if cfg.passthroughMode then
    if distributePrimitiveId cfg && cfg.enableSwXfb then [(.distributedPrimitiveId, .xfbOutput)]
    else []
  else if distributePrimitiveId cfg then [(.distributedPrimitiveId, .vertexPosition)] else []

/-- Every access to `A` and every access to `B` have a fenced barrier between
them in program order. -/
def PhaseDisjoint (prog : List Step) (A B : LdsRegion) : Prop :=
  ∀ (p q : Nat) (kA kB : Access), prog[p]? = some (Step.access kA A) →
    prog[q]? = some (Step.access kB B) →
    ∃ b, prog[b]? = some fenceAndBarrier ∧ (p < b ∧ b < q ∨ q < b ∧ b < p)

theorem PhaseDisjoint.symm {prog : List Step} {A B : LdsRegion} (h : PhaseDisjoint prog A B) :
    PhaseDisjoint prog B A := by
  intro p q kB kA hp hq
  obtain ⟨b, hb, hpq⟩ := h q p kA kB hq hp
  exact ⟨b, hb, hpq.symm⟩

theorem not_touches_of_getElem? {l : List Step} {n : Nat} {k : Access} {r : LdsRegion}
    (hl : l.any (Step.touches r) = false) : l[n]? ≠ some (Step.access k r) := fun h => by
  have := List.any_eq_false.mp hl _ (List.getElem?_mem h)
  simp [Step.touches] at this

theorem phaseDisjoint_of_split (A B : LdsRegion) (pre post : List Step)
    (hpre : pre.any (Step.touches B) = false) (hpost : post.any (Step.touches A) = false) :
    PhaseDisjoint (pre ++ fenceAndBarrier :: post) A B := by
  intro p q kA kB hp hq
  have hmid : ∀ n k r, (pre ++ fenceAndBarrier :: post)[pre.length + n]? = some (Step.access k r) →
      post[n - 1]? = some (Step.access k r) ∧ 0 < n := by
    intro n k r h
    rw [List.getElem?_append_right (by omega), Nat.add_sub_cancel_left] at h
    cases n with
    | zero => simp [fenceAndBarrier] at h
    | succ n => exact ⟨by simpa using h, n.succ_pos⟩
  have hp' : p < pre.length := by
    by_contra hlt
    obtain ⟨n, rfl⟩ : ∃ n, p = pre.length + n := ⟨p - pre.length, by omega⟩
    exact not_touches_of_getElem? hpost (hmid n kA A hp).1
  obtain ⟨n, rfl⟩ : ∃ n, q = pre.length + n := by
    refine ⟨q - pre.length, ?_⟩
    by_contra hlt
    rw [List.getElem?_append_left (by omega)] at hq
    exact not_touches_of_getElem? hpre hq
  refine ⟨pre.length, ?_, Or.inl ⟨hp', ?_⟩⟩
  · rw [List.getElem?_append_right le_rfl, Nat.sub_self, List.getElem?_cons_zero]
  have := (hmid n kB B hq).2
  omega

theorem buildPassthroughPrimShader_phaseDisjoint (cfg : PipelineConfig)
    (h : distributePrimitiveId cfg = true) :
    PhaseDisjoint (buildPassthroughPrimShader cfg) .distributedPrimitiveId .xfbOutput := by
  have := phaseDisjoint_of_split .distributedPrimitiveId .xfbOutput
    [.access .write .distributedPrimitiveId, fenceAndBarrier, .access .read .distributedPrimitiveId]
    (if cfg.enableSwXfb then processSwXfb true else []) rfl (by split <;> rfl)
  simpa [buildPassthroughPrimShader, h, distributePrimitiveIdSteps] using this

theorem buildPrimShader_phaseDisjoint (cfg : PipelineConfig) (runtimePassthrough earlyExit : Bool)
    (h : distributePrimitiveId cfg = true) :
    PhaseDisjoint (buildPrimShader cfg runtimePassthrough earlyExit)
      .distributedPrimitiveId .vertexPosition := by
  have hpost : (buildPrimShaderTail cfg runtimePassthrough earlyExit).any
      (Step.touches .distributedPrimitiveId) = false := by
    unfold buildPrimShaderTail cullingSteps exportSteps
    split_ifs <;> rfl
  have := phaseDisjoint_of_split .distributedPrimitiveId .vertexPosition
    [.access .write .distributedPrimitiveId, fenceAndBarrier, .access .read .distributedPrimitiveId]
    _ rfl hpost
  simpa [buildPrimShader, h, distributePrimitiveIdSteps] using this

theorem gsOutputSteps_not_touches (cfg : PipelineConfig) {r : LdsRegion}
    (hr : r = .primitiveCounts ∨ r = .primitiveIndexMap ∨ r = .xfbStats) :
    (gsOutputSteps cfg).any (Step.touches r) = false := by
  rcases hr with rfl | rfl | rfl <;>
    simp only [gsOutputSteps, List.any_append, List.any_cons] <;> split_ifs <;> decide

theorem buildPrimShaderWithGs_counts_phaseDisjoint (cfg : PipelineConfig) (h : cfg.enableSwXfb = true) :
    PhaseDisjoint (buildPrimShaderWithGs cfg) .primitiveCounts .vertexCounts := by
  have := phaseDisjoint_of_split .primitiveCounts .vertexCounts (gsSteps ++ processSwXfbWithGsHead)
    (processSwXfbWithGsTail ++ .access .write .vertexCounts :: fenceAndBarrier :: gsOutputSteps cfg)
    rfl (by simp [gsOutputSteps_not_touches cfg (Or.inl rfl)]; decide)
  simpa [buildPrimShaderWithGs, h, processSwXfbWithGs] using this

theorem buildPrimShaderWithGs_indexMaps_phaseDisjoint (cfg : PipelineConfig) (h : cfg.enableSwXfb = true) :
    PhaseDisjoint (buildPrimShaderWithGs cfg) .primitiveIndexMap .vertexIndexMap := by
  have := phaseDisjoint_of_split .primitiveIndexMap .vertexIndexMap
    (gsSteps ++ processSwXfbWithGs ++ [Step.access .write .vertexCounts])
    (gsOutputSteps cfg) rfl (gsOutputSteps_not_touches cfg (Or.inr (Or.inl rfl)))
  simpa [buildPrimShaderWithGs, h] using this

theorem primShaderSteps_phaseDisjoint (cfg : PipelineConfig) (runtimePassthrough earlyExit : Bool) :
    ∀ p ∈ overlappedRegions cfg,
      PhaseDisjoint (primShaderSteps cfg runtimePassthrough earlyExit) p.1 p.2 := by
  intro p hp
  unfold primShaderSteps
  unfold overlappedRegions at hp
  by_cases hgs : cfg.hasGs
  · simp only [hgs, ↓reduceIte, List.mem_append, List.mem_ite_nil_right, List.mem_singleton,
      Bool.and_eq_true] at hp ⊢
    rcases hp with ⟨hx, rfl⟩ | ⟨⟨hx, -⟩, rfl⟩
    · exact (buildPrimShaderWithGs_counts_phaseDisjoint cfg hx).symm
    · exact (buildPrimShaderWithGs_indexMaps_phaseDisjoint cfg hx).symm
  by_cases hpt : cfg.passthroughMode
  · simp only [hgs, hpt, Bool.false_eq_true, ↓reduceIte] at hp ⊢
    split_ifs at hp with hdpi
    · rw [List.mem_singleton.mp hp]
      exact buildPassthroughPrimShader_phaseDisjoint cfg (by simp_all)
    · cases hp
  · simp only [hgs, hpt, Bool.false_eq_true, ↓reduceIte] at hp ⊢
    split_ifs at hp with hdpi
    · rw [List.mem_singleton.mp hp]
      exact buildPrimShader_phaseDisjoint cfg runtimePassthrough earlyExit hdpi
    · cases hp

abbrev WavePcs (W : Nat) := Fin W → Nat

def waveStep {W : Nat} (prog : List Step) (pc : WavePcs W) (w : Fin W) : Option (WavePcs W) :=
  match prog[pc w]? with
  | some (Step.access _ _) => some (Function.update pc w (pc w + 1))
  | some (Step.barrier _) =>
    if ∀ v, pc w ≤ pc v then some (Function.update pc w (pc w + 1)) else none
  | none => none

def runWaves {W : Nat} (prog : List Step) : WavePcs W → List (Fin W) → Option (WavePcs W)
  | pc, [] => some pc
  | pc, w :: ws => (waveStep prog pc w).bind (runWaves prog · ws)

section Waves

variable {W : Nat} {prog : List Step}

theorem waveStep_eq_some {pc pc' : WavePcs W} {w : Fin W} (h : waveStep prog pc w = some pc') :
    pc' = Function.update pc w (pc w + 1) ∧
      ∀ f, prog[pc w]? = some (Step.barrier f) → ∀ v, pc w ≤ pc v := by
  unfold waveStep at h
  split at h
  · next hs => exact ⟨(Option.some.inj h).symm, fun f hf => by simp [hs] at hf⟩
  · split at h
    · next hall => exact ⟨(Option.some.inj h).symm, fun _ _ => hall⟩
    · cases h
  · cases h

theorem waveStep_mono {pc pc' : WavePcs W} {w : Fin W} (h : waveStep prog pc w = some pc')
    (v : Fin W) : pc v ≤ pc' v := by
  rw [(waveStep_eq_some h).1]
  by_cases hv : v = w
  · subst hv; simp
  · simp [Function.update_noteq hv]

@[simp] theorem runWaves_nil (pc : WavePcs W) : runWaves prog pc [] = some pc := rfl

theorem runWaves_cons (pc : WavePcs W) (w : Fin W) (ws : List (Fin W)) :
    runWaves prog pc (w :: ws) = (waveStep prog pc w).bind (runWaves prog · ws) := rfl

theorem runWaves_append (pc : WavePcs W) (xs ys : List (Fin W)) :
    runWaves prog pc (xs ++ ys) = (runWaves prog pc xs).bind (runWaves prog · ys) := by
  induction xs generalizing pc with
  | nil => rfl
  | cons w xs ih =>
    simp only [List.cons_append, runWaves_cons]
    cases waveStep prog pc w <;> simp [ih]

theorem runWaves_mono {pc pc' : WavePcs W} {ws : List (Fin W)} (h : runWaves prog pc ws = some pc')
    (v : Fin W) : pc v ≤ pc' v := by
  induction ws generalizing pc with
  | nil => cases h; exact le_rfl
  | cons w ws ih =>
    obtain ⟨q, hq, hrun⟩ := Option.bind_eq_some.mp h
    exact (waveStep_mono hq v).trans (ih hrun)

theorem runWaves_split_at_barrier {pc pc' : WavePcs W} {ws : List (Fin W)} {w : Fin W} {b : Nat}
    {f : Bool} (h : runWaves prog pc ws = some pc') (hb : prog[b]? = some (Step.barrier f))
    (hbefore : pc w ≤ b) (hafter : b < pc' w) :
    ∃ ws₁ ws₂ q, ws = ws₁ ++ ws₂ ∧ runWaves prog pc ws₁ = some q ∧
      runWaves prog q ws₂ = some pc' ∧ ∀ v, b ≤ q v := by
  induction ws generalizing pc with
  | nil => cases h; omega
  | cons w' ws ih =>
    obtain ⟨q, hq, hrun⟩ := Option.bind_eq_some.mp h
    obtain ⟨hq', hbar⟩ := waveStep_eq_some hq
    by_cases hpass : w' = w ∧ pc w = b
    · obtain ⟨rfl, hpc⟩ := hpass
      refine ⟨[], w' :: ws, pc, rfl, rfl, h, fun v => ?_⟩
      exact hpc ▸ hbar f (hpc ▸ hb) v
    · have hq_w : q w ≤ b := by
        rw [hq']
        by_cases hw : w = w'
        · subst hw; simp; omega
        · simpa [Function.update_noteq hw] using hbefore
      obtain ⟨ws₁, ws₂, q', rfl, h₁, h₂, hall⟩ := ih hrun hq_w
      exact ⟨w' :: ws₁, ws₂, q', rfl, by simp [runWaves_cons, hq, h₁], h₂, hall⟩

theorem runWaves_all_reached {pc pc' : WavePcs W} {ws : List (Fin W)} {w : Fin W} {b : Nat}
    {f : Bool} (h : runWaves prog pc ws = some pc') (hb : prog[b]? = some (Step.barrier f))
    (hbefore : pc w ≤ b) (hafter : b < pc' w) (v : Fin W) : b ≤ pc' v := by
  obtain ⟨ws₁, ws₂, q, -, -, h₂, hall⟩ := runWaves_split_at_barrier h hb hbefore hafter
  exact (hall v).trans (runWaves_mono h₂ v)

end Waves

/-- Any number of waves, any schedule from the start of the shader: when wave
`w₁` accesses `A` and afterwards wave `w₂` accesses `B`, the schedule between
the two passes a point where every wave has reached a fenced barrier that lies
after the first access and before the second. -/
def BarrierSeparated (prog : List Step) (A B : LdsRegion) : Prop :=
  ∀ (W : Nat) (pre mid : List (Fin W)) (w₁ w₂ : Fin W) (pc₁ pc₂ : WavePcs W) (kA kB : Access),
    runWaves prog (fun _ => 0) pre = some pc₁ → prog[pc₁ w₁]? = some (Step.access kA A) →
    runWaves prog pc₁ (w₁ :: mid) = some pc₂ → prog[pc₂ w₂]? = some (Step.access kB B) →
    ∃ b mid₁ mid₂ pc, mid = mid₁ ++ mid₂ ∧ runWaves prog pc₁ (w₁ :: mid₁) = some pc ∧
      runWaves prog pc mid₂ = some pc₂ ∧ prog[b]? = some fenceAndBarrier ∧
      pc₁ w₁ < b ∧ b < pc₂ w₂ ∧ ∀ v, b ≤ pc v

theorem barrierSeparated_of_phaseDisjoint {prog : List Step} {A B : LdsRegion}
    (h : PhaseDisjoint prog A B) : BarrierSeparated prog A B := by
  intro W pre mid w₁ w₂ pc₁ pc₂ kA kB hpre hA hrun hB
  obtain ⟨b, hb, hord⟩ := h _ _ kA kB hA hB
  -- No wave has passed `b` before `w₁`'s access, which lies before `b`.
  have hreach : ∀ v, b < pc₁ v → False := fun v hv => by
    have hall := runWaves_all_reached hpre hb (Nat.zero_le b) hv
    have := hall w₁
    have := hall w₂
    have := runWaves_mono hrun w₂
    omega
  rcases hord with ⟨h₁, h₂⟩ | ⟨-, h₁⟩
  · obtain ⟨ws₁, ws₂, q, hsplit, hq₁, hq₂, hall⟩ :=
      runWaves_split_at_barrier hrun hb (not_lt.mp (hreach w₂ ·)) h₂
    cases ws₁ with
    | nil =>
      cases hq₁
      have := hall w₁
      omega
    | cons w ws₁ =>
      rw [List.cons_append, List.cons_eq_cons] at hsplit
      obtain ⟨rfl, rfl⟩ := hsplit
      exact ⟨b, ws₁, ws₂, q, rfl, hq₁, hq₂, hb, h₁, h₂, hall⟩
  · exact (hreach w₁ h₁).elim

theorem overlappedRegions_barrierSeparated (cfg : PipelineConfig) (runtimePassthrough earlyExit : Bool) :
    ∀ p ∈ overlappedRegions cfg,
      BarrierSeparated (primShaderSteps cfg runtimePassthrough earlyExit) p.1 p.2 ∧
        BarrierSeparated (primShaderSteps cfg runtimePassthrough earlyExit) p.2 p.1 := fun p hp =>
  have h := primShaderSteps_phaseDisjoint cfg runtimePassthrough earlyExit p hp
  ⟨barrierSeparated_of_phaseDisjoint h, barrierSeparated_of_phaseDisjoint h.symm⟩

def gsXfbConfig : PipelineConfig :=
  { hasGs := true, passthroughMode := false, enableSwXfb := true, xfbOutputExpCount := 1,
    enableCullDistanceCulling := false, compactVertex := true, hasTes := false, tessCoord := false,
    tesPrimitiveId := false, vertexIndex := false, instanceIndex := false, vsPrimitiveId := false,
    inputMapLocCount := 4 }

theorem overlappedRegions_barrierSeparated_gsXfb :
    (LdsRegion.vertexIndexMap, LdsRegion.primitiveIndexMap) ∈ overlappedRegions gsXfbConfig ∧
      BarrierSeparated (primShaderSteps gsXfbConfig false false) .vertexIndexMap .primitiveIndexMap ∧
      BarrierSeparated (primShaderSteps gsXfbConfig false false) .primitiveIndexMap .vertexIndexMap :=
  have h : (LdsRegion.vertexIndexMap, LdsRegion.primitiveIndexMap) ∈ overlappedRegions gsXfbConfig := by
    decide
  ⟨h, overlappedRegions_barrierSeparated gsXfbConfig false false _ h⟩

end NggPrimShader.Lds.Phases
