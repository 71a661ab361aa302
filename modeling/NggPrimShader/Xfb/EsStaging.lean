import NggPrimShader.Xfb.Export
import NggPrimShader.Es.CullInfo

/-! The transform-feedback path of `processSwXfb`, without API GS. Every vertex
thread writes its outputs to its ES-GS ring item in LDS (the `XfbOutput` region
in passthrough mode, the `xfbOutputs` field of the vertex cull info otherwise),
and lane `t` of `.exportXfbOutput` reads the slots of its primitive's vertices.
Each read gives what the vertex wrote, so the draw's buffers record the input
primitives in subgroup-thread order. -/
namespace NggPrimShader.Xfb.EsStaging

open NggPrimShader.Basic NggPrimShader.Es.CullInfo NggPrimShader.Xfb.Reservation NggPrimShader.Xfb.Export

section Staging

variable (cfg : PipelineConfig)

def xfbOutputLdsOffset (vertexIndex outputIndex : Nat) : Nat :=
  vertexIndex * calcEsGsRingItemSize cfg +
    ((if cfg.passthroughMode then 0 else vertCullInfoOffsets cfg .xfbOutputs) + 4 * outputIndex)

def writeXfbOutputToLds (writeData : List Nat) (vertexIndex outputIndex : Nat) : List (Nat × Nat) :=
  writeValueToLds writeData (xfbOutputLdsOffset cfg vertexIndex outputIndex)

def readXfbOutputFromLds (lds : Nat → Nat) (numElements vertexIndex outputIndex : Nat) : List Nat :=
  readValueFromLds lds numElements (xfbOutputLdsOffset cfg vertexIndex outputIndex)

/-- The stores of `.fetchXfbOutput`: every vertex thread `u < vertCountInSubgroup`
writes each of its `outputCount` outputs `xfbOutputs u j`. -/
def fetchXfbOutputStores (vertCountInSubgroup outputCount : Nat) (xfbOutputs : Nat → Nat → List Nat) :
    List (Nat × Nat) :=
  (List.range vertCountInSubgroup).flatMap fun u => (List.range outputCount).flatMap fun j =>
    writeXfbOutputToLds cfg (xfbOutputs u j) u j

variable {cfg}

theorem xfbOutputs_le_itemSize (hgs : cfg.hasGs = false) (hxfb : cfg.enableSwXfb = true) :
    (if cfg.passthroughMode then 0 else vertCullInfoOffsets cfg .xfbOutputs) + 4 * cfg.xfbOutputExpCount ≤
      calcEsGsRingItemSize cfg := by
  by_cases hpt : cfg.passthroughMode
  · have := le_or_one (cfg.xfbOutputExpCount * 4)
    simp only [hpt, ↓reduceIte, calcEsGsRingItemSize, hgs, hxfb, Bool.false_eq_true]
    omega
  · have hcull : cfg.cullingMode = true := by simp [PipelineConfig.cullingMode, hgs, hpt]
    have hf : CullInfoField.xfbOutputs ∈ cullInfoFields cfg := by simp [cullInfoFields, hcull, hxfb]
    obtain ⟨o, ho⟩ := Option.isSome_iff_exists.mp
      (@placeField_isSome (CullInfoField.size cfg.xfbOutputExpCount) _ 0 _ hf)
    have hb := (placeField_bounds ho).2
    have hsum := le_or_one ((calcVertexCullInfoSizeAndOffsets cfg).1)
    simp only [hpt, Bool.false_eq_true, ↓reduceIte, calcEsGsRingItemSize, hgs, vertCullInfoOffsets,
      calcVertexCullInfoSizeAndOffsets, ho, Option.getD_some, CullInfoField.size] at hb hsum ⊢
    omega

variable (hgs : cfg.hasGs = false) (hxfb : cfg.enableSwXfb = true) {outputCount vertCount : Nat}
  (hcount : outputCount ≤ cfg.xfbOutputExpCount) {xfbOutputs : Nat → Nat → List Nat}
  (hlen : ∀ u < vertCount, ∀ j < outputCount, (xfbOutputs u j).length = 4)
include hgs hxfb hcount hlen

theorem readXfbOutputFromLds_fetchXfbOutputStores (lds : Nat → Nat) {order : List (Nat × Nat)}
    (horder : order.Perm (fetchXfbOutputStores cfg vertCount outputCount xfbOutputs))
    {u j n : Nat} (hu : u < vertCount) (hj : j < outputCount) (hn : n ≤ 4) :
    readXfbOutputFromLds cfg (runStores lds order) n u j = (xfbOutputs u j).take n := by
  have hS := xfbOutputs_le_itemSize hgs hxfb
  refine readValueFromLds_runStores lds (by rw [hlen u hu j hj]; exact hn) (fun e he => horder.mem_iff.mpr ?_)
    fun st hst e he hst1 => ?_
  · exact List.mem_flatMap.mpr ⟨u, List.mem_range.mpr hu, List.mem_flatMap.mpr
      ⟨j, List.mem_range.mpr hj, getElem_mem_writeValueToLds _ _ e he⟩⟩
  · obtain ⟨u', hu', hmem⟩ := List.mem_flatMap.mp (horder.mem_iff.mp hst)
    obtain ⟨j', hj', hmem⟩ := List.mem_flatMap.mp hmem
    obtain ⟨e', he', rfl⟩ := mem_writeValueToLds hmem
    rw [List.mem_range] at hu' hj'
    obtain ⟨rfl, rfl, rfl⟩ := itemSlot_inj (by omega : _ + 4 * outputCount ≤ _) hj hj'
      (by have := hlen u hu j hj; omega) (by have := hlen u' hu' j' hj'; omega) hst1.symm
    rfl

end Staging

/-- One subgroup of `processSwXfb`: its vertex and primitive threads, each
primitive thread's connectivity, and the transform-feedback outputs the ES
computes on each vertex thread, in `xfbOutputExports` order and padded to
`<4 x i32>` as `fetchXfbOutput` returns them. -/
structure EsSubgroup where
  vertCountInSubgroup : Nat
  primCountInSubgroup : Nat
  primData : Nat → Nat  -- `primData` of primitive thread `t`, read in passthrough mode.
  vertexIndex : Nat → List Nat  -- `vertexIndex0..2` of primitive thread `t`, read in culling mode.
  xfbOutputs : Nat → Nat → List Nat

namespace EsSubgroup

variable (cfg : PipelineConfig) (xcfg : XfbConfig) (outputs : List XfbOutputExport) (sg : EsSubgroup)

/-- `vertexIndices[0 .. vertsPerPrim-1]` of `.exportXfbOutput`: the 9-bit fields
of `primData` in passthrough mode, `vertexIndex0..2` otherwise. -/
def vertexIndices (t : Nat) : List Nat :=
  if cfg.passthroughMode then (List.range xcfg.vertsPerPrim).map fun i => createUBfe (sg.primData t) (10 * i) 9
  else sg.vertexIndex t

def fetch (lds : Nat → Nat) (t v j : Nat) : List Nat :=
  readXfbOutputFromLds cfg lds ((outputs.map XfbOutputExport.numElements).getD j 0)
    ((sg.vertexIndices cfg xcfg t).getD v 0) j

/-- Input primitive `t` as the API captures it: output `j` at its vertex `v` is
output `j` of the vertex its `v`-th index names, without the padding. -/
def apiPrimitive (t : Nat) : Prim := fun v j =>
  (sg.xfbOutputs ((sg.vertexIndices cfg xcfg t).getD v 0) j).take ((outputs.map XfbOutputExport.numElements).getD j 0)

def apiPrims : List Prim := (List.range sg.primCountInSubgroup).map (sg.apiPrimitive cfg xcfg outputs)

structure Valid : Prop where
  vertexIndices_lt : ∀ t < sg.primCountInSubgroup, ∀ v < xcfg.vertsPerPrim,
    (sg.vertexIndices cfg xcfg t).getD v 0 < sg.vertCountInSubgroup
  xfbOutputs_length : ∀ u < sg.vertCountInSubgroup, ∀ j < outputs.length, (sg.xfbOutputs u j).length = 4

variable {cfg xcfg outputs sg}

theorem fetch_eq_apiPrimitive (hgs : cfg.hasGs = false) (hxfb : cfg.enableSwXfb = true)
    (hcount : outputs.length ≤ cfg.xfbOutputExpCount) (hnum : ∀ o ∈ outputs, o.numElements ≤ 4)
    (hvalid : sg.Valid cfg xcfg outputs) (lds : Nat → Nat) {order : List (Nat × Nat)}
    (horder : order.Perm (fetchXfbOutputStores cfg sg.vertCountInSubgroup outputs.length sg.xfbOutputs))
    {t : Nat} (ht : t < sg.primCountInSubgroup) {v : Nat} (hv : v < xcfg.vertsPerPrim) {j : Nat}
    (hj : j < outputs.length) :
    sg.fetch cfg xcfg outputs (runStores lds order) t v j = sg.apiPrimitive cfg xcfg outputs t v j := by
  have hn : (outputs.map XfbOutputExport.numElements).getD j 0 ≤ 4 := by
    rw [List.getD_eq_getElem _ _ (by simpa using hj), List.getElem_map]
    exact hnum _ (List.getElem_mem _)
  exact readXfbOutputFromLds_fetchXfbOutputStores hgs hxfb hcount hvalid.xfbOutputs_length lds horder
    (hvalid.vertexIndices_lt t ht v hv) hj hn

end EsSubgroup

/-- One execution of a subgroup's staging stores: what the LDS held before, and
the order in which the vertex threads' stores land. -/
structure EsRun (cfg : PipelineConfig) (outputs : List XfbOutputExport) (sg : EsSubgroup) where
  lds : Nat → Nat
  order : List (Nat × Nat)
  order_perm : order.Perm (fetchXfbOutputStores cfg sg.vertCountInSubgroup outputs.length sg.xfbOutputs)

def EsRun.xfbLds {cfg : PipelineConfig} {outputs : List XfbOutputExport} {sg : EsSubgroup}
    (r : EsRun cfg outputs sg) : Nat → Nat :=
  runStores r.lds r.order

end NggPrimShader.Xfb.EsStaging
