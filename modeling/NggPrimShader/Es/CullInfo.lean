import NggPrimShader.Basic
import Mathlib.Data.List.Perm.Basic
import Mathlib.Data.List.Nodup

/-! The vertex cull info of the culling path without API GS: the fields
`calcVertexCullInfoSizeAndOffsets` places one after another in each vertex's
ES-GS ring item, and the readback of per-vertex stores through those offsets.
Distinct placed fields occupy disjoint dwords of an item, so a store to one
field of one vertex reaches no other field and no other vertex. -/
namespace NggPrimShader.Es.CullInfo

open NggPrimShader.Basic

/-- `InvalidValue`, declared outside the sources: the offset of a field that a
configuration does not place; every cull-info access asserts against it. -/
def InvalidValue : Nat := 0xFFFFFFFF

inductive CullInfoField
  | xfbOutputs
  | cullDistanceSignMask
  | drawFlag
  | compactedVertexIndex
  | tessCoordX
  | tessCoordY
  | relPatchId
  | patchId
  | vertexId
  | instanceId
  | primitiveId
  deriving DecidableEq, Repr

/-- What `calcVertexCullInfoSizeAndOffsets` and `calcEsGsRingItemSize` read from
the pipeline state and the NGG control. -/
structure PipelineConfig where
  hasGs : Bool
  passthroughMode : Bool
  enableSwXfb : Bool
  xfbOutputExpCount : Nat
  enableCullDistanceCulling : Bool
  compactVertex : Bool
  hasTes : Bool
  tessCoord : Bool  -- `builtInUsage.tes.tessCoord`
  tesPrimitiveId : Bool  -- `builtInUsage.tes.primitiveId`
  vertexIndex : Bool  -- `builtInUsage.vs.vertexIndex`
  instanceIndex : Bool  -- `builtInUsage.vs.instanceIndex`
  vsPrimitiveId : Bool  -- `builtInUsage.vs.primitiveId`
  inputMapLocCount : Nat  -- `inOutUsage.inputMapLocCount` of the API GS.
  deriving DecidableEq, Repr

def PipelineConfig.cullingMode (cfg : PipelineConfig) : Bool := !cfg.hasGs && !cfg.passthroughMode

/-- `sizeof(VertexCullInfo::field) / sizeof(unsigned)`. The struct is declared
outside the sources: a transform-feedback output is `<4 x dword>` (the code's
own note) and every other field is read and written as one 32-bit value. -/
def CullInfoField.size (xfbOutputCount : Nat) : CullInfoField → Nat
  | .xfbOutputs => 4 * xfbOutputCount
  | _ => 1

theorem CullInfoField.size_eq_one (xfbOutputCount : Nat) {f : CullInfoField} (hx : f ≠ .xfbOutputs) :
    f.size xfbOutputCount = 1 := by
  cases f <;> first | rfl | exact absurd rfl hx

def compactVertFields (cfg : PipelineConfig) : List CullInfoField :=
  .compactedVertexIndex ::
    if cfg.hasTes then
      (if cfg.tessCoord then [.tessCoordX, .tessCoordY] else []) ++
        .relPatchId :: (if cfg.tesPrimitiveId then [.patchId] else [])
    else
      (if cfg.vertexIndex then [.vertexId] else []) ++ (if cfg.instanceIndex then [.instanceId] else []) ++
        (if cfg.vsPrimitiveId then [.primitiveId] else [])

def cullInfoFields (cfg : PipelineConfig) : List CullInfoField :=
  if cfg.cullingMode then
    (if cfg.enableSwXfb then [.xfbOutputs] else []) ++
      (if cfg.enableCullDistanceCulling then [.cullDistanceSignMask] else []) ++
      .drawFlag :: (if cfg.compactVertex then compactVertFields cfg else [])
  else []

def placeField (size : CullInfoField → Nat) (f : CullInfoField) : Nat → List CullInfoField → Option Nat
  | _, [] => none
  | cullInfoOffset, g :: fields =>
    if f = g then some cullInfoOffset else placeField size f (cullInfoOffset + size g) fields

/-- `calcVertexCullInfoSizeAndOffsets`: the dword size of the cull info and the
offset of every field in an item (`InvalidValue` for a field not placed). -/
def calcVertexCullInfoSizeAndOffsets (cfg : PipelineConfig) : Nat × (CullInfoField → Nat) :=
  let size := CullInfoField.size cfg.xfbOutputExpCount
  (((cullInfoFields cfg).map size).sum,
    fun f => (placeField size f 0 (cullInfoFields cfg)).getD InvalidValue)

def vertCullInfoOffsets (cfg : PipelineConfig) : CullInfoField → Nat :=
  (calcVertexCullInfoSizeAndOffsets cfg).2

/-- `calcEsGsRingItemSize`, made odd by `| 1` against LDS bank conflicts. -/
def calcEsGsRingItemSize (cfg : PipelineConfig) : Nat :=
  if cfg.hasGs then 4 * max 1 cfg.inputMapLocCount ||| 1
  else if cfg.passthroughMode then (if cfg.enableSwXfb then cfg.xfbOutputExpCount * 4 else 1) ||| 1
  else (calcVertexCullInfoSizeAndOffsets cfg).1 ||| 1

def cullInfoAddr (cfg : PipelineConfig) (t : Nat) (f : CullInfoField) : Nat :=
  t * calcEsGsRingItemSize cfg + vertCullInfoOffsets cfg f

def cullInfoStores (cfg : PipelineConfig) (writes : List (Nat × CullInfoField × Nat)) : List (Nat × Nat) :=
  writes.map fun w => (cullInfoAddr cfg w.1 w.2.1, w.2.2)

section Placement

variable {size : CullInfoField → Nat}

theorem placeField_bounds {f : CullInfoField} :
    ∀ {off o : Nat} {fields : List CullInfoField}, placeField size f off fields = some o →
      off ≤ o ∧ o + size f ≤ off + (fields.map size).sum
  | _, _, [], h => by simp [placeField] at h
  | off, o, g :: fields, h => by
    unfold placeField at h
    split_ifs at h with hfg
    · cases h; subst hfg; simp
    · have := placeField_bounds h
      simp only [List.map_cons, List.sum_cons]
      omega

theorem placeField_isSome {f : CullInfoField} :
    ∀ {off : Nat} {fields : List CullInfoField}, f ∈ fields → (placeField size f off fields).isSome
  | _, [], h => by simp at h
  | off, g :: fields, h => by
    unfold placeField
    split_ifs with hfg
    · rfl
    · exact placeField_isSome ((List.mem_cons.mp h).resolve_left hfg)

theorem placeField_disjoint {f g : CullInfoField} (hfg : f ≠ g) :
    ∀ {off o p : Nat} {fields : List CullInfoField}, placeField size f off fields = some o →
      placeField size g off fields = some p → o + size f ≤ p ∨ p + size g ≤ o
  | _, _, _, [], h, _ => by simp [placeField] at h
  | off, o, p, h0 :: fields, hf, hg => by
    unfold placeField at hf hg
    by_cases hf0 : f = h0
    · subst hf0
      rw [if_pos rfl] at hf
      rw [if_neg (Ne.symm hfg)] at hg
      cases hf
      exact Or.inl (placeField_bounds hg).1
    · rw [if_neg hf0] at hf
      by_cases hg0 : g = h0
      · subst hg0
        rw [if_pos rfl] at hg
        cases hg
        exact Or.inr (placeField_bounds hf).1
      · rw [if_neg hg0] at hg
        exact placeField_disjoint hfg hf hg

end Placement

theorem le_or_one (n : Nat) : n ≤ n ||| 1 :=
  Nat.le_of_testBit fun i h => by simp [Nat.testBit_or, h]

section Layout

variable {cfg : PipelineConfig} (hcull : cfg.cullingMode = true)
include hcull

theorem vertCullInfoOffsets_lt {f : CullInfoField} (hf : f ∈ cullInfoFields cfg)
    (hx : f ≠ .xfbOutputs) : vertCullInfoOffsets cfg f < calcEsGsRingItemSize cfg := by
  obtain ⟨o, ho⟩ := Option.isSome_iff_exists.mp
    (@placeField_isSome (CullInfoField.size cfg.xfbOutputExpCount) f 0 _ hf)
  have hb := (placeField_bounds ho).2
  have hsize := CullInfoField.size_eq_one cfg.xfbOutputExpCount hx
  have hsum := le_or_one ((calcVertexCullInfoSizeAndOffsets cfg).1)
  have hitem : calcEsGsRingItemSize cfg = (calcVertexCullInfoSizeAndOffsets cfg).1 ||| 1 := by
    simp only [PipelineConfig.cullingMode, Bool.and_eq_true, Bool.not_eq_true'] at hcull
    simp [calcEsGsRingItemSize, hcull.1, hcull.2]
  simp only [vertCullInfoOffsets, calcVertexCullInfoSizeAndOffsets, ho, Option.getD_some] at hsum hitem ⊢
  omega

theorem cullInfoAddr_inj {t u : Nat} {f g : CullInfoField} (hf : f ∈ cullInfoFields cfg)
    (hg : g ∈ cullInfoFields cfg) (hfx : f ≠ .xfbOutputs) (hgx : g ≠ .xfbOutputs)
    (h : cullInfoAddr cfg t f = cullInfoAddr cfg u g) : t = u ∧ f = g := by
  have hof := vertCullInfoOffsets_lt hcull hf hfx
  have hog := vertCullInfoOffsets_lt hcull hg hgx
  have hS : 0 < calcEsGsRingItemSize cfg := by omega
  have hdiv : ∀ v o, o < calcEsGsRingItemSize cfg → (v * calcEsGsRingItemSize cfg + o) / calcEsGsRingItemSize cfg = v :=
    fun v o ho => by rw [Nat.mul_comm, Nat.mul_add_div hS, Nat.div_eq_of_lt ho, Nat.add_zero]
  have htu : t = u := by
    rw [← hdiv t _ hof, ← hdiv u _ hog]
    exact congrArg (· / calcEsGsRingItemSize cfg) h
  subst htu
  refine ⟨rfl, Classical.byContradiction fun hfg => ?_⟩
  obtain ⟨o, ho⟩ := Option.isSome_iff_exists.mp
    (@placeField_isSome (CullInfoField.size cfg.xfbOutputExpCount) f 0 _ hf)
  obtain ⟨p, hp⟩ := Option.isSome_iff_exists.mp
    (@placeField_isSome (CullInfoField.size cfg.xfbOutputExpCount) g 0 _ hg)
  have hd := placeField_disjoint hfg ho hp
  have hsf := CullInfoField.size_eq_one cfg.xfbOutputExpCount hfx
  have hsg := CullInfoField.size_eq_one cfg.xfbOutputExpCount hgx
  simp only [cullInfoAddr, vertCullInfoOffsets, calcVertexCullInfoSizeAndOffsets, ho, hp,
    Option.getD_some] at h
  omega

variable {writes : List (Nat × CullInfoField × Nat)}
  (hfields : ∀ w ∈ writes, w.2.1 ∈ cullInfoFields cfg ∧ w.2.1 ≠ .xfbOutputs)
include hfields

theorem runStores_cullInfo_of_mem (lds : Nat → Nat) {order : List (Nat × Nat)}
    (horder : order.Perm (cullInfoStores cfg writes))
    (hnd : (writes.map fun w => (w.1, w.2.1)).Nodup) {t : Nat} {f : CullInfoField} {v : Nat}
    (hmem : (t, f, v) ∈ writes) : runStores lds order (cullInfoAddr cfg t f) = v := by
  have hinj : (cullInfoStores cfg writes).map Prod.fst = (writes.map fun w => (w.1, w.2.1)).map
      fun p => cullInfoAddr cfg p.1 p.2 := by simp [cullInfoStores]
  refine runStores_of_mem _ ((horder.map Prod.fst).nodup_iff.mpr ?_) (horder.mem_iff.mpr ?_)
  · rw [hinj, List.nodup_map_iff_inj_on hnd]
    intro a ha b hb hab
    obtain ⟨wa, hwa, rfl⟩ := List.mem_map.mp ha
    obtain ⟨wb, hwb, rfl⟩ := List.mem_map.mp hb
    obtain ⟨h1, h2⟩ := cullInfoAddr_inj hcull (hfields wa hwa).1 (hfields wb hwb).1 (hfields wa hwa).2
      (hfields wb hwb).2 hab
    rw [h1, h2]
  · exact List.mem_map.mpr ⟨_, hmem, rfl⟩

theorem runStores_cullInfo_of_fresh (lds : Nat → Nat) {order : List (Nat × Nat)}
    (horder : order.Perm (cullInfoStores cfg writes)) {t : Nat} {f : CullInfoField}
    (hf : f ∈ cullInfoFields cfg) (hfx : f ≠ .xfbOutputs) (hfresh : ∀ w ∈ writes, (w.1, w.2.1) ≠ (t, f)) :
    runStores lds order (cullInfoAddr cfg t f) = lds (cullInfoAddr cfg t f) := by
  refine runStores_of_fresh _ fun st hst he => ?_
  obtain ⟨w, hw, rfl⟩ := List.mem_map.mp (horder.mem_iff.mp hst)
  obtain ⟨h1, h2⟩ := cullInfoAddr_inj hcull (hfields w hw).1 hf (hfields w hw).2 hfx he
  exact hfresh w hw (by rw [h1, h2])

theorem runStores_cullInfo_of_agree (lds : Nat → Nat) {order : List (Nat × Nat)}
    (horder : order.Perm (cullInfoStores cfg writes)) {t : Nat} {f : CullInfoField} {v : Nat}
    (hf : f ∈ cullInfoFields cfg) (hfx : f ≠ .xfbOutputs) (hmem : ∃ w ∈ writes, (w.1, w.2.1) = (t, f))
    (hagree : ∀ w ∈ writes, (w.1, w.2.1) = (t, f) → w.2.2 = v) :
    runStores lds order (cullInfoAddr cfg t f) = v := by
  obtain ⟨w, hw, hwe⟩ := hmem
  refine runStores_of_agree _ ⟨(cullInfoAddr cfg w.1 w.2.1, w.2.2), horder.mem_iff.mpr
    (List.mem_map.mpr ⟨w, hw, rfl⟩), by rw [(Prod.mk.inj hwe).1, (Prod.mk.inj hwe).2]⟩ fun st hst he => ?_
  obtain ⟨w', hw', rfl⟩ := List.mem_map.mp (horder.mem_iff.mp hst)
  obtain ⟨h1, h2⟩ := cullInfoAddr_inj hcull (hfields w' hw').1 hf (hfields w' hw').2 hfx he
  exact hagree w' hw' (by rw [h1, h2])

end Layout

end NggPrimShader.Es.CullInfo
