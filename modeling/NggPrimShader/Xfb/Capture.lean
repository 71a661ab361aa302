import NggPrimShader.Xfb.EsStaging
import NggPrimShader.Xfb.GsStaging

/-! The transform-feedback capture of a draw through either SW path:
`processSwXfb` without API GS and `processSwXfbWithGs` with it. Whatever the
interleaving of the subgroups' counter operations, each active buffer records
the longest prefix of its stream's API primitives that fits in every buffer of
the stream. -/
namespace NggPrimShader.Xfb.Capture

open NggPrimShader.Basic NggPrimShader.Es.CullInfo NggPrimShader.Gs.PrimData
  NggPrimShader.Xfb.Reservation NggPrimShader.Xfb.Export NggPrimShader.Xfb.EsStaging NggPrimShader.Xfb.GsStaging

/-- A draw of subgroups through one of the two paths, with the subgroups and
one execution of each subgroup's LDS phases. -/
inductive XfbDraw (outputs : List XfbOutputExport) where
  | withoutGs (cfg : PipelineConfig) (vertsPerPrim : Nat) (sg : Nat → EsSubgroup)
      (run : ∀ k, EsRun cfg outputs (sg k))
  | withGs (g : GsXfbConfig) (sg : Nat → GsSubgroup) (run : ∀ k, GsRun g (sg k))

namespace XfbDraw

variable (buffers : BufferId → XfbBuffer) {outputs : List XfbOutputExport}

def config : XfbDraw outputs → XfbConfig
  | withoutGs _ vertsPerPrim _ _ => processSwXfbConfig buffers vertsPerPrim
  | withGs g _ _ =>
    processSwXfbWithGsConfig buffers g.mode.outputPrimitive.verticesPerPrimitive g.streamXfbBuffers

def streams : XfbDraw outputs → List StreamId
  | withoutGs .. => [0]
  | withGs g _ _ => g.activeStreams

/-- What thread 0 of subgroup `k` reserves from: `primCountInSubgroup` without
API GS; with it, `primCountInSubgroup[s]` of each active stream, which the code
leaves unset, and no buffer reads, for the other streams. -/
def primCounts : XfbDraw outputs → Nat → StreamId → Nat
  | withoutGs _ _ sg _ => fun k _ => (sg k).primCountInSubgroup
  | withGs g _ run => fun k s => if s ∈ g.activeStreams then (run k).primCountInStream s else 0

def stores {N : Nat} (d : Draw N) : XfbDraw outputs → List ElementStore
  | withoutGs cfg vertsPerPrim sg run =>
    drawStores (processSwXfbConfig buffers vertsPerPrim) outputs d fun k t =>
      (sg k).fetch cfg (processSwXfbConfig buffers vertsPerPrim) outputs (run k).xfbLds t
  | withGs g _ run =>
    drawStoresWithGs (processSwXfbWithGsConfig buffers g.mode.outputPrimitive.verticesPerPrimitive g.streamXfbBuffers)
      outputs g.activeStreams d fun k s => (run k).fetch outputs s

def apiPrims : XfbDraw outputs → Nat → StreamId → List Prim
  | withoutGs cfg vertsPerPrim sg _ => fun k _ => (sg k).apiPrims cfg (processSwXfbConfig buffers vertsPerPrim) outputs
  | withGs g sg _ => fun k s => (sg k).apiPrims g outputs s

/-- What each path asks of its first `N` subgroups and of the outputs: without
API GS, SW transform feedback with the outputs staged in the ES-GS ring items;
with it, every output on the stream of its buffer. -/
def Valid (N : Nat) : XfbDraw outputs → Prop
  | withoutGs cfg vertsPerPrim sg _ =>
    cfg.hasGs = false ∧ cfg.enableSwXfb = true ∧ 0 < vertsPerPrim ∧ outputs.length ≤ cfg.xfbOutputExpCount ∧
      (∀ o ∈ outputs, o.numElements ≤ 4) ∧
      ∀ k < N, (sg k).Valid cfg (processSwXfbConfig buffers vertsPerPrim) outputs
  | withGs g sg _ =>
    (∀ o ∈ outputs, xfbBufferToStream g.streamXfbBuffers o.xfbBuffer = o.streamId) ∧
      ∀ k < N, (sg k).Valid g outputs

end XfbDraw

theorem Draw.init_congr {N : Nat} {f f' : Nat → StreamId → Nat} (W0 : BufferId → Nat)
    (h : ∀ k < N, f k = f' k) : (Draw.init f W0 : Draw N) = Draw.init f' W0 := by
  simp only [Draw.init, h _ (Fin.isLt _)]

theorem streamPrims_active {P : Nat → StreamId → List Prim} {streams : List StreamId} {s : StreamId}
    (hs : s ∈ streams) (N : Nat) :
    streamPrims (fun k s => if s ∈ streams then P k s else []) s N = streamPrims P s N := by
  simp only [streamPrims, if_pos hs]

variable {buffers : BufferId → XfbBuffer} {outputs : List XfbOutputExport} {W0 : BufferId → Nat}

/-- The capture law of a draw, with or without API GS: every schedule of the
subgroups' counter operations extends to one after which no subgroup can move,
and then, whatever the interleaving and the order of each subgroup's LDS stores,
each active buffer of an exported stream holds, contiguously from its offset
plus its counter at the start of the draw, the longest prefix of the stream's
API primitives that fits in every buffer of the stream, each primitive's
vertices in the API's order with the values they hold for the buffer's outputs. -/
theorem xfb_draw_captures_longest_fit {N : Nat} (D : XfbDraw outputs) (hD : D.Valid buffers N)
    (hact : activeBuffers (D.config buffers) ≠ []) (hstride : ∀ i, (buffers i).stride % 4 = 0)
    (hfits : ∀ o ∈ outputs, o.xfbOffset + o.byteSize ≤ (buffers o.xfbBuffer).stride)
    (hW0 : CountersInRange (D.config buffers) W0) (σ : List (Fin N)) {d : Draw N}
    (hrun : runDraw (D.config buffers) (Draw.init D.primCounts W0) σ = some d) :
    (∃ σ' d', runDraw (D.config buffers) d σ' = some d' ∧ d'.Halted (D.config buffers)) ∧
      (d.Halted (D.config buffers) → ∀ i ∈ activeBuffers (D.config buffers),
        (D.config buffers).bufferToStream i ∈ D.streams →
        CapturesLongestFit (D.config buffers) outputs W0 (D.stores buffers d) i
          (streamPrims (D.apiPrims buffers) ((D.config buffers).bufferToStream i) N)) := by
  refine ⟨Draw.exists_halted _ d, fun hh i hi hs => ?_⟩
  have hdone := halted_done hact (fun i => by have := hW0 i; omega) σ hrun hh
  cases D with
  | withoutGs cfg vertsPerPrim sg run =>
    obtain ⟨hgs, hxfb, hvpp, hcount, hnum, hvalid⟩ := hD
    have hrun' : runDraw (processSwXfbConfig buffers vertsPerPrim) (Draw.init (fun k _ =>
        ((sg k).apiPrims cfg (processSwXfbConfig buffers vertsPerPrim) outputs).length) W0) σ = some d := by
      simpa only [EsSubgroup.apiPrims, List.length_map, List.length_range] using hrun
    show CapturesLongestFit (processSwXfbConfig buffers vertsPerPrim) outputs W0
      (drawStores (processSwXfbConfig buffers vertsPerPrim) outputs d fun k t =>
        (sg k).fetch cfg (processSwXfbConfig buffers vertsPerPrim) outputs (run k).xfbLds t) i
      (streamPrims (fun k _ => (sg k).apiPrims cfg (processSwXfbConfig buffers vertsPerPrim) outputs) 0 N)
    exact capturesLongestFit_drawStores hact hvpp hstride hW0 σ hrun' (fun _ => rfl) hfits hdone _
      (fun k hk t ht v hv j hj => by
        simp only [EsSubgroup.apiPrims, List.getElem_map, List.getElem_range]
        simp only [EsSubgroup.apiPrims, List.length_map, List.length_range] at ht
        exact EsSubgroup.fetch_eq_apiPrimitive hgs hxfb hcount hnum (hvalid k hk) (run k).lds (run k).order_perm
          ht hv hj) hi
  | withGs g sg run =>
    obtain ⟨hstream, hvalid⟩ := hD
    have hcounts : (Draw.init (@XfbDraw.withGs outputs g sg run).primCounts W0 : Draw N) =
        Draw.init (fun k s => (if s ∈ g.activeStreams then (sg k).apiPrims g outputs s else []).length) W0 := by
      refine Draw.init_congr W0 fun k hk => funext fun s => ?_
      by_cases hs : s ∈ g.activeStreams
      · simp only [XfbDraw.primCounts, if_pos hs, GsSubgroup.apiPrims, List.length_map,
          GsRun.primCountInStream_eq (hvalid k hk) (run k) hs]
      · simp only [XfbDraw.primCounts, if_neg hs, List.length_nil]
    have hrun' : runDraw (processSwXfbWithGsConfig buffers g.mode.outputPrimitive.verticesPerPrimitive
        g.streamXfbBuffers) (Draw.init (fun k s =>
          (if s ∈ g.activeStreams then (sg k).apiPrims g outputs s else []).length) W0) σ = some d :=
      hcounts ▸ hrun
    have hs' : xfbBufferToStream g.streamXfbBuffers i ∈ g.activeStreams := hs
    show CapturesLongestFit (processSwXfbWithGsConfig buffers g.mode.outputPrimitive.verticesPerPrimitive
        g.streamXfbBuffers) outputs W0 (drawStoresWithGs (processSwXfbWithGsConfig buffers
          g.mode.outputPrimitive.verticesPerPrimitive g.streamXfbBuffers) outputs g.activeStreams d
            fun k s => (run k).fetch outputs s) i
      (streamPrims (fun k s => (sg k).apiPrims g outputs s) (xfbBufferToStream g.streamXfbBuffers i) N)
    rw [← streamPrims_active hs']
    refine capturesLongestFit_drawStoresWithGs hact g.mode.outputPrimitive.verticesPerPrimitive_pos hstride hW0 σ
      hrun' (fun o ho => ⟨hfits o ho, hstream o ho⟩) ((List.nodup_finRange _).filter _) hdone _
      (fun k hk s t ht v hv j hj hjs => ?_) hi hs'
    by_cases hs : s ∈ g.activeStreams
    · rw [List.getElem_of_eq (if_pos hs) ht]
      simp only [if_pos hs, GsSubgroup.apiPrims, List.length_map, List.getElem_map] at ht ⊢
      exact GsRun.fetch_eq_apiPrimitive (hvalid k hk) (run k) hs ht hv hj hjs
    · simp only [if_neg hs, List.length_nil] at ht
      omega

def cullingConfig : PipelineConfig :=
  ⟨false, false, true, 1, false, false, false, false, false, false, false, false, 0⟩

def twoTriangles : EsSubgroup := ⟨3, 2, fun _ => 0, fun _ => [0, 1, 2], fun u _ => [u, 0, 0, 0]⟩

theorem twoTriangles_valid :
    twoTriangles.Valid cullingConfig (processSwXfbConfig oneBufferConfig.buffers 3) [vec3Output] :=
  ⟨by decide, by decide⟩

def twoTrianglesDraw : XfbDraw [vec3Output] :=
  .withoutGs cullingConfig 3 (fun _ => twoTriangles) fun _ =>
    ⟨fun _ => 0, _, List.Perm.refl (fetchXfbOutputStores cullingConfig 3 1 twoTriangles.xfbOutputs)⟩

def stripConfig : GsXfbConfig :=
  ⟨⟨.triangleStrip, 4⟩, 0, fun s => if s.val = 0 then 1 else 0, WaveSize.wave32, ⟨fun _ => 1, 1⟩⟩

def stripSubgroup : GsSubgroup :=
  ⟨fun w => if w = 0 then 1 else 0, fun _ => [.emit 0, .emit 0, .emit 0, .emit 0], 4, 1, fun _ _ e _ => [e, 0, 0, 0]⟩

def stripRun : GsRun stripConfig stripSubgroup :=
  ⟨fun _ => 0, _, _, fun _ => 0, _, fun _ => 0, _, fun _ => 0, _,
    List.Perm.refl _, List.Perm.refl _, List.Perm.refl _, List.Perm.refl _, List.Perm.refl _⟩

def stripDraw : XfbDraw [vec3Output] := .withGs stripConfig (fun _ => stripSubgroup) fun _ => stripRun

def finishedDraw (D : XfbDraw [vec3Output]) : Draw 2 :=
  (runDraw (D.config oneBufferConfig.buffers) (Draw.init D.primCounts fun _ => 0) [0, 0, 1, 1]).getD
    (Draw.init D.primCounts fun _ => 0)

theorem stripSubgroup_valid : stripSubgroup.Valid stripConfig [vec3Output] := by
  have hrun : ∀ t, gsRuns WaveSize.wave32 stripSubgroup.primCountInWave t → t = 0 := fun t h => by
    simp only [gsRuns, WaveSize.wave32, stripSubgroup, decide_eq_true_eq] at h
    split_ifs at h <;> omega
  refine ⟨⟨fun t _ h => ?_, by decide, fun _ _ _ _ => List.count_le_length _ _⟩, le_rfl, by decide, by decide,
    fun t _ h => ?_, fun _ _ _ _ => by simp [stripSubgroup], fun _ _ o ho => ?_, by decide⟩
  · rw [hrun t h]
    decide
  · rw [hrun t h]
    decide
  · rw [List.mem_singleton.mp ho]
    simp [stripSubgroup, vec3Output]

set_option maxRecDepth 4000 in
theorem xfb_draw_captures_longest_fit_twoSubgroups :
    (finishedDraw twoTrianglesDraw).Halted (twoTrianglesDraw.config oneBufferConfig.buffers) ∧
      CapturesLongestFit (twoTrianglesDraw.config oneBufferConfig.buffers) [vec3Output] (fun _ => 0)
        (twoTrianglesDraw.stores oneBufferConfig.buffers (finishedDraw twoTrianglesDraw)) 0
        (streamPrims (twoTrianglesDraw.apiPrims oneBufferConfig.buffers) 0 2) ∧
      (finishedDraw stripDraw).Halted (stripDraw.config oneBufferConfig.buffers) ∧
      CapturesLongestFit (stripDraw.config oneBufferConfig.buffers) [vec3Output] (fun _ => 0)
        (stripDraw.stores oneBufferConfig.buffers (finishedDraw stripDraw)) 0
        (streamPrims (stripDraw.apiPrims oneBufferConfig.buffers) 0 2) :=
  have h₁ : (finishedDraw twoTrianglesDraw).Halted (twoTrianglesDraw.config oneBufferConfig.buffers) := by
    decide
  have h₂ : (finishedDraw stripDraw).Halted (stripDraw.config oneBufferConfig.buffers) := by decide
  ⟨h₁, (xfb_draw_captures_longest_fit twoTrianglesDraw
      ⟨rfl, rfl, by decide, le_rfl, by decide, fun _ _ => twoTriangles_valid⟩
      (by decide) (by decide) (by decide) (by unfold CountersInRange; decide) [0, 0, 1, 1]
      (show runDraw (twoTrianglesDraw.config oneBufferConfig.buffers) (Draw.init twoTrianglesDraw.primCounts
        fun _ => 0) [0, 0, 1, 1] = some (finishedDraw twoTrianglesDraw) from rfl)).2 h₁ 0
      (by decide) (List.mem_singleton_self _),
    h₂, (xfb_draw_captures_longest_fit stripDraw ⟨by decide, fun _ _ => stripSubgroup_valid⟩
      (by decide) (by decide) (by decide) (by unfold CountersInRange; decide) [0, 0, 1, 1]
      (show runDraw (stripDraw.config oneBufferConfig.buffers) (Draw.init stripDraw.primCounts
        fun _ => 0) [0, 0, 1, 1] = some (finishedDraw stripDraw) from rfl)).2 h₂ 0
      (by decide) (by decide)⟩

set_option maxRecDepth 4000 in
example : ((finishedDraw stripDraw).thread0 1).numPrimsToWrite 0 = 1 := by decide

end NggPrimShader.Xfb.Capture
