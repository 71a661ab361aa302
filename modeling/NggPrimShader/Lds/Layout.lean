import Mathlib
import NggPrimShader.Lds.Phases

/-! `layoutPrimShaderLds`: the region table of the primitive shader's LDS and the
usage it reports. Each branch places its regions back to back. The distributed
primitive ID restarts at offset 0, under the region placed after it, and with API
GS and SW transform feedback the vertex counts and vertex index map copy the
primitive ones. So, with sizes in the range the hardware gives them, two regions
share a dword only when `overlappedRegions` lists them. The usage the function
returns does not depend on whether it builds the table. -/
namespace NggPrimShader.Lds.Layout

open NggPrimShader.Basic NggPrimShader.Es.CullInfo NggPrimShader.Lds.Phases

structure CalcFactor where
  esGsLdsSize : UInt32
  gsOnChipLdsSize : UInt32
  esVertsPerSubgroup : UInt32
  esGsRingItemSize : UInt32
  deriving DecidableEq, Repr

structure PrimShaderLdsUsageInfo where
  needsLds : Bool
  esExtraLdsSize : UInt32
  gsExtraLdsSize : UInt32
  deriving DecidableEq, Repr

abbrev PrimShaderLdsLayout := List (LdsRegion × UInt32 × UInt32)

/-- The variables `layoutPrimShaderLds` updates: `ldsOffset`, `ldsRegionSize`,
the table (`none` for a dry run, `ldsLayout == nullptr`) and the usage. -/
structure LayoutState where
  ldsOffset : UInt32
  ldsRegionSize : UInt32
  ldsLayout : Option PrimShaderLdsLayout
  ldsUsageInfo : PrimShaderLdsUsageInfo

/-- One statement of `layoutPrimShaderLds`. The `printLdsRegionInfo` calls only
print. -/
inductive LayoutStmt
  | setRegionSize (size : UInt32)  -- `ldsRegionSize = size;`
  | setRegionSizeForLayout (size : UInt32)  -- `if (ldsLayout) ldsRegionSize = size;`
  -- `if (ldsLayout)`: `(*ldsLayout)[region] = std::make_pair(ldsOffset, ldsRegionSize);
  -- ldsOffset += ldsRegionSize;`
  | placeRegion (region : LdsRegion)
  -- `if (ldsLayout) (*ldsLayout)[region] = (*ldsLayout)[source];`
  | aliasRegion (region source : LdsRegion)
  | resetOffset  -- `ldsOffset = 0;`
  | addEsExtraLdsSize  -- `ldsUsageInfo.esExtraLdsSize += ldsRegionSize;`
  | addGsExtraLdsSize  -- `ldsUsageInfo.gsExtraLdsSize += ldsRegionSize;`
  -- `if (ldsLayout)`: `ldsRegionSize = calcFactor.gsOnChipLdsSize -
  -- (*ldsLayout)[EsGsRing].second - ldsUsageInfo.gsExtraLdsSize;`
  | setGsVsRingSize (gsOnChipLdsSize : UInt32)

def regionEntry (layout : PrimShaderLdsLayout) (region : LdsRegion) : UInt32 × UInt32 :=
  (layout.lookup region).getD (0, 0)

def LayoutStmt.run (st : LayoutState) : LayoutStmt → LayoutState
  | .setRegionSize size => { st with ldsRegionSize := size }
  | .setRegionSizeForLayout size => if st.ldsLayout.isSome then { st with ldsRegionSize := size } else st
  | .placeRegion region =>
    match st.ldsLayout with
    | some layout =>
      { st with ldsLayout := some ((region, st.ldsOffset, st.ldsRegionSize) :: layout),
                ldsOffset := st.ldsOffset + st.ldsRegionSize }
    | none => st
  | .aliasRegion region source =>
    match st.ldsLayout with
    | some layout => { st with ldsLayout := some ((region, regionEntry layout source) :: layout) }
    | none => st
  | .resetOffset => { st with ldsOffset := 0 }
  | .addEsExtraLdsSize =>
    { st with ldsUsageInfo := { st.ldsUsageInfo with
        esExtraLdsSize := st.ldsUsageInfo.esExtraLdsSize + st.ldsRegionSize } }
  | .addGsExtraLdsSize =>
    { st with ldsUsageInfo := { st.ldsUsageInfo with
        gsExtraLdsSize := st.ldsUsageInfo.gsExtraLdsSize + st.ldsRegionSize } }
  | .setGsVsRingSize gsOnChipLdsSize =>
    match st.ldsLayout with
    | some layout =>
      { st with ldsRegionSize :=
          gsOnChipLdsSize - (regionEntry layout .esGsRing).2 - st.ldsUsageInfo.gsExtraLdsSize }
    | none => st

def runLayout (st : LayoutState) (stmts : List LayoutStmt) : LayoutState :=
  stmts.foldl LayoutStmt.run st

@[simp] theorem runLayout_nil (st : LayoutState) : runLayout st [] = st := rfl

@[simp] theorem runLayout_cons (st : LayoutState) (s : LayoutStmt) (stmts : List LayoutStmt) :
    runLayout st (s :: stmts) = runLayout (s.run st) stmts := rfl

@[simp] theorem runLayout_append (st : LayoutState) (l₁ l₂ : List LayoutStmt) :
    runLayout st (l₁ ++ l₂) = runLayout (runLayout st l₁) l₂ :=
  List.foldl_append _ _ _ _

variable (cfg : PipelineConfig) (calcFactor : CalcFactor)

def alignTo4 (value : UInt32) : UInt32 := UInt32.ofNat ((value.toNat + 3) / 4 * 4)

@[simp] theorem toNat_uint32OfNat (n : Nat) : (UInt32.ofNat n).toNat = n % 2 ^ 32 := rfl

def layoutWithGs : List LayoutStmt :=
  -- ES-GS ring
  [.setRegionSizeForLayout (alignTo4 calcFactor.esGsLdsSize), .placeRegion .esGsRing,
  -- Primitive data
   .setRegionSize (.ofNat (NggMaxThreadsPerSubgroup * MaxGsStreams)), .placeRegion .primitiveData,
   .addGsExtraLdsSize] ++
  -- Primitive counts
  (if cfg.enableSwXfb then
    [.setRegionSize (.ofNat ((NggMaxWavesPerSubgroup + 1) * MaxGsStreams)), .placeRegion .primitiveCounts,
     .addGsExtraLdsSize]
   else []) ++
  -- Primitive index map
  (if cfg.enableSwXfb then
    [.setRegionSize (.ofNat (NggMaxThreadsPerSubgroup * MaxGsStreams)), .placeRegion .primitiveIndexMap,
     .addGsExtraLdsSize]
   else []) ++
  -- Vertex counts
  (if cfg.enableSwXfb then [.aliasRegion .vertexCounts .primitiveCounts]
   else
    [.setRegionSize (.ofNat ((NggMaxWavesPerSubgroup + 1) * MaxGsStreams)), .placeRegion .vertexCounts,
     .addGsExtraLdsSize]) ++
  -- Vertex index map
  (if cfg.compactVertex then
    if cfg.enableSwXfb then [.aliasRegion .vertexIndexMap .primitiveIndexMap]
    else
      [.setRegionSize (.ofNat (NggMaxThreadsPerSubgroup * MaxGsStreams)), .placeRegion .vertexIndexMap,
       .addGsExtraLdsSize]
   else []) ++
  -- XFB statistics
  (if cfg.enableSwXfb then
    [.setRegionSize (.ofNat (MaxTransformFeedbackBuffers + MaxGsStreams)), .placeRegion .xfbStats,
     .addGsExtraLdsSize]
   else []) ++
  -- GS-VS ring
  [.setGsVsRingSize calcFactor.gsOnChipLdsSize, .placeRegion .gsVsRing]

def layoutPassthrough : List LayoutStmt :=
  -- Distributed primitive ID
  (if distributePrimitiveId cfg then
    [.setRegionSizeForLayout calcFactor.esVertsPerSubgroup, .placeRegion .distributedPrimitiveId]
   else []) ++
  .resetOffset ::
  -- XFB outputs
  (if cfg.enableSwXfb then
    [.setRegionSizeForLayout (calcFactor.esVertsPerSubgroup * calcFactor.esGsRingItemSize), .placeRegion .xfbOutput]
   else []) ++
  -- XFB statistics
  (if cfg.enableSwXfb then
    [.setRegionSize (.ofNat (MaxTransformFeedbackBuffers + 1)), .placeRegion .xfbStats, .addEsExtraLdsSize]
   else [])

def layoutCulling : List LayoutStmt :=
  -- Distributed primitive ID
  (if distributePrimitiveId cfg then
    [.setRegionSizeForLayout calcFactor.esVertsPerSubgroup, .placeRegion .distributedPrimitiveId]
   else []) ++
  [.resetOffset,
  -- Vertex position
   .setRegionSize (.ofNat (4 * NggMaxThreadsPerSubgroup)), .placeRegion .vertexPosition, .addEsExtraLdsSize,
  -- Vertex cull info
   .setRegionSizeForLayout (calcFactor.esGsRingItemSize * calcFactor.esVertsPerSubgroup),
   .placeRegion .vertexCullInfo] ++
  -- XFB statistics
  (if cfg.enableSwXfb then
    [.setRegionSize (.ofNat (MaxTransformFeedbackBuffers + 1)), .placeRegion .xfbStats, .addEsExtraLdsSize]
   else []) ++
  -- Vertex counts
  [.setRegionSize (.ofNat (NggMaxWavesPerSubgroup + 1)), .placeRegion .vertexCounts, .addEsExtraLdsSize] ++
  -- Vertex index map
  (if cfg.compactVertex then
    [.setRegionSize (.ofNat NggMaxThreadsPerSubgroup), .placeRegion .vertexIndexMap, .addEsExtraLdsSize]
   else [])

/-- `layoutPrimShaderLds(pipelineState, ldsLayout)`: the usage it returns and the
table it leaves. -/
def layoutPrimShaderLds (ldsLayout : Option PrimShaderLdsLayout) :
    PrimShaderLdsUsageInfo × Option PrimShaderLdsLayout :=
  let start (needsLds : Bool) : LayoutState := ⟨0, 0, ldsLayout, ⟨needsLds, 0, 0⟩⟩
  let st :=
    if cfg.hasGs then runLayout (start true) (layoutWithGs cfg calcFactor)
    else if cfg.passthroughMode then
      runLayout (start (distributePrimitiveId cfg || cfg.enableSwXfb)) (layoutPassthrough cfg calcFactor)
    else runLayout (start true) (layoutCulling cfg calcFactor)
  (st.ldsUsageInfo, st.ldsLayout)

def LayoutStmt.pendingAfter (pending : Bool) : LayoutStmt → Bool
  | .setRegionSize _ => false
  | .setRegionSizeForLayout _ | .setGsVsRingSize _ => true
  | _ => pending

def LayoutStmt.addsUsage : LayoutStmt → Bool
  | .addEsExtraLdsSize | .addGsExtraLdsSize => true
  | _ => false

/-- No statement adds `ldsRegionSize` to the usage while the two runs may
disagree on it. -/
def UsageSafe (pending : Bool) : List LayoutStmt → Bool
  | [] => true
  | s :: stmts => !(s.addsUsage && pending) && UsageSafe (s.pendingAfter pending) stmts

theorem LayoutStmt.run_usage_eq (s : LayoutStmt) {pending : Bool} (hsafe : !(s.addsUsage && pending))
    {st₁ st₂ : LayoutState} (hu : st₁.ldsUsageInfo = st₂.ldsUsageInfo)
    (hs : pending = false → st₁.ldsRegionSize = st₂.ldsRegionSize) :
    (s.run st₁).ldsUsageInfo = (s.run st₂).ldsUsageInfo ∧
      (s.pendingAfter pending = false → (s.run st₁).ldsRegionSize = (s.run st₂).ldsRegionSize) := by
  cases s with
  | setRegionSize => exact ⟨hu, fun _ => rfl⟩
  | setRegionSizeForLayout =>
    refine ⟨?_, nofun⟩
    simp only [LayoutStmt.run]
    split_ifs <;> exact hu
  | setGsVsRingSize =>
    refine ⟨?_, nofun⟩
    simp only [LayoutStmt.run]
    split <;> split <;> exact hu
  | placeRegion | aliasRegion =>
    refine ⟨?_, fun h => ?_⟩ <;> simp only [LayoutStmt.run] <;> split <;> split <;> first | exact hu | exact hs h
  | resetOffset => exact ⟨hu, hs⟩
  | addEsExtraLdsSize | addGsExtraLdsSize =>
    cases pending
    · simp only [LayoutStmt.run, hu, hs rfl, and_self, implies_true]
    · exact absurd hsafe (by decide)

theorem runLayout_usage_eq {pending : Bool} {stmts : List LayoutStmt} (hsafe : UsageSafe pending stmts)
    {st₁ st₂ : LayoutState} (hu : st₁.ldsUsageInfo = st₂.ldsUsageInfo)
    (hs : pending = false → st₁.ldsRegionSize = st₂.ldsRegionSize) :
    (runLayout st₁ stmts).ldsUsageInfo = (runLayout st₂ stmts).ldsUsageInfo := by
  induction stmts generalizing pending st₁ st₂ with
  | nil => exact hu
  | cons s stmts ih =>
    simp only [UsageSafe, Bool.and_eq_true] at hsafe
    have ⟨hu', hs'⟩ := s.run_usage_eq hsafe.1 hu hs
    exact ih hsafe.2 hu' hs'

theorem layoutPrimShaderLds_usage (ldsLayout : Option PrimShaderLdsLayout) :
    (layoutPrimShaderLds cfg calcFactor ldsLayout).1 = (layoutPrimShaderLds cfg calcFactor none).1 := by
  have hWithGs : UsageSafe false (layoutWithGs cfg calcFactor) := by
    unfold layoutWithGs; cases cfg.enableSwXfb <;> cases cfg.compactVertex <;> rfl
  have hPassthrough : UsageSafe false (layoutPassthrough cfg calcFactor) := by
    unfold layoutPassthrough; cases distributePrimitiveId cfg <;> cases cfg.enableSwXfb <;> rfl
  have hCulling : UsageSafe false (layoutCulling cfg calcFactor) := by
    unfold layoutCulling
    cases distributePrimitiveId cfg <;> cases cfg.enableSwXfb <;> cases cfg.compactVertex <;> rfl
  unfold layoutPrimShaderLds
  split_ifs <;> exact runLayout_usage_eq (by assumption) rfl fun _ => rfl

def HoldsDword (entry : UInt32 × UInt32) (d : Nat) : Prop :=
  entry.1.toNat ≤ d ∧ d < entry.1.toNat + entry.2.toNat

instance (entry : UInt32 × UInt32) (d : Nat) : Decidable (HoldsDword entry d) :=
  inferInstanceAs (Decidable (_ ∧ _))

def SharesDword (layout : PrimShaderLdsLayout) (r₁ r₂ : LdsRegion) : Prop :=
  ∃ e₁ e₂ d, layout.lookup r₁ = some e₁ ∧ layout.lookup r₂ = some e₂ ∧
    HoldsDword e₁ d ∧ HoldsDword e₂ d

def Documented (r₁ r₂ : LdsRegion) : Prop :=
  (r₁, r₂) ∈ overlappedRegions cfg ∨ (r₂, r₁) ∈ overlappedRegions cfg

instance (r₁ r₂ : LdsRegion) : Decidable (Documented cfg r₁ r₂) := inferInstanceAs (Decidable (_ ∨ _))

def OverlapsPlaced (layout : PrimShaderLdsLayout) : Prop :=
  ∀ p ∈ overlappedRegions cfg,
    ∃ e₁ e₂, layout.lookup p.1 = some e₁ ∧ layout.lookup p.2 = some e₂ ∧ e₁.1 = e₂.1

/-- What the table is meant to be: two regions share a dword only as
`overlappedRegions` lists them, and each listed pair starts at one offset. -/
structure RegionsAsDocumented (layout : PrimShaderLdsLayout) : Prop where
  shares : ∀ r₁ r₂, r₁ ≠ r₂ → SharesDword layout r₁ r₂ → Documented cfg r₁ r₂
  overlapped : OverlapsPlaced cfg layout

def Apart : LdsRegion × UInt32 × UInt32 → LdsRegion × UInt32 × UInt32 → Prop := fun x y =>
  x.2.1.toNat + x.2.2.toNat ≤ y.2.1.toNat ∨ y.2.1.toNat + y.2.2.toNat ≤ x.2.1.toNat ∨ Documented cfg x.1 y.1

theorem apart_symm : Symmetric (Apart cfg) := fun _ _ h => by
  unfold Apart Documented at *
  tauto

theorem mem_of_lookup_eq_some {layout : PrimShaderLdsLayout} {r : LdsRegion} {e : UInt32 × UInt32}
    (h : layout.lookup r = some e) : (r, e) ∈ layout := by
  obtain ⟨l₁, l₂, rfl, -⟩ := List.lookup_eq_some_iff.mp h
  simp

theorem shares_documented_of_pairwise {layout : PrimShaderLdsLayout} (h : layout.Pairwise (Apart cfg))
    {r₁ r₂ : LdsRegion} (hne : r₁ ≠ r₂) (hs : SharesDword layout r₁ r₂) : Documented cfg r₁ r₂ := by
  obtain ⟨e₁, e₂, d, h₁, h₂, hd₁, hd₂⟩ := hs
  have hne' : (r₁, e₁) ≠ (r₂, e₂) := fun h => hne (Prod.mk.inj h).1
  rcases h.forall (apart_symm cfg) (mem_of_lookup_eq_some h₁) (mem_of_lookup_eq_some h₂) hne' with
    h | h | h <;> dsimp only [HoldsDword] at h hd₁ hd₂
  · omega
  · omega
  · exact h

section Tables

variable {cfg : PipelineConfig} {calcFactor : CalcFactor}

/-- Each branch is run symbolically for every value of the flags it reads, and
the entries' ranges compared by one shared simplification. -/
theorem layoutPrimShaderLds_apart (hverts : calcFactor.esVertsPerSubgroup.toNat ≤ 4 * NggMaxThreadsPerSubgroup)
    (hitem : 0 < calcFactor.esGsRingItemSize.toNat) (hitem' : calcFactor.esGsRingItemSize.toNat < 2 ^ 16)
    (hesGs : calcFactor.esGsLdsSize.toNat < 2 ^ 16) :
    ∃ layout, (layoutPrimShaderLds cfg calcFactor (some [])).2 = some layout ∧
      layout.Pairwise (Apart cfg) ∧ OverlapsPlaced cfg layout := by
  have hRE : calcFactor.esGsRingItemSize.toNat * calcFactor.esVertsPerSubgroup.toNat ≤ 2 ^ 16 * 1024 :=
    Nat.mul_le_mul hitem'.le hverts
  have hER : calcFactor.esVertsPerSubgroup.toNat * calcFactor.esGsRingItemSize.toNat ≤ 1024 * 2 ^ 16 :=
    Nat.mul_le_mul hverts hitem'.le
  -- passthrough: the XFB statistics start at or after the end of the distributed primitive ID
  have hE : calcFactor.esVertsPerSubgroup.toNat ≤
      calcFactor.esVertsPerSubgroup.toNat * calcFactor.esGsRingItemSize.toNat :=
    Nat.le_mul_of_pos_right _ hitem
  have hA : (alignTo4 calcFactor.esGsLdsSize).toNat = (calcFactor.esGsLdsSize.toNat + 3) / 4 * 4 := by
    simp only [alignTo4, toNat_uint32OfNat]; omega
  unfold NggMaxThreadsPerSubgroup at hverts
  unfold OverlapsPlaced Apart Documented overlappedRegions
  cases hgs : cfg.hasGs
  -- with API GS
  on_goal 2 =>
    simp only [layoutPrimShaderLds, layoutWithGs, hgs]
    generalize cfg.enableSwXfb = xfb
    generalize cfg.compactVertex = cv
    cases xfb <;> cases cv
  on_goal 1 => cases hpm : cfg.passthroughMode
  -- passthrough
  on_goal 2 =>
    simp only [layoutPrimShaderLds, layoutPassthrough, hgs, hpm]
    generalize distributePrimitiveId cfg = dpi
    generalize cfg.enableSwXfb = xfb
    cases dpi <;> cases xfb
  -- culling
  on_goal 1 =>
    simp only [layoutPrimShaderLds, layoutCulling, hgs, hpm]
    generalize distributePrimitiveId cfg = dpi
    generalize cfg.enableSwXfb = xfb
    generalize cfg.compactVertex = cv
    cases dpi <;> cases xfb <;> cases cv
  all_goals
    simp only [runLayout_append, runLayout_cons, runLayout_nil, LayoutStmt.run, Option.isSome, ite_true,
        ite_false, Bool.false_eq_true, Bool.and_true, Bool.and_false, List.nil_append, List.singleton_append,
        List.cons_append, Option.some.injEq, exists_eq_left', regionEntry, List.lookup_cons, List.lookup_nil,
        Option.getD_some, instBEqOfDecidableEq, decide_True, decide_False, reduceCtorEq, List.pairwise_cons,
        List.Pairwise.nil, List.forall_mem_cons, List.not_mem_nil, List.mem_singleton, List.mem_cons,
        Prod.mk.injEq, forall_eq, forall_eq_or_imp, IsEmpty.forall_iff, forall_const, implies_true,
        exists_and_left, exists_eq_left, and_true, true_and, and_false, false_and, or_true, or_false, false_or,
        NggMaxThreadsPerSubgroup, NggMaxWavesPerSubgroup, MaxGsStreams, MaxTransformFeedbackBuffers,
        toNat_uint32OfNat, UInt32.toNat_zero, UInt32.toNat_add, UInt32.toNat_mul, UInt32.size, zero_add,
        Nat.reduceMul, Nat.reduceMod, Nat.reducePow, Nat.reduceAdd, hA] <;>
      simp (disch := omega) only [Nat.mod_eq_of_lt] <;> omega

end Tables

/-- With the per-subgroup vertex count at most the vertex-position region's 1024
dwords, a nonzero ES-GS ring item and both ES sizes below `2^16` dwords, the table
of `layoutPrimShaderLds` shares dwords only between the regions `overlappedRegions`
lists, each listed pair starts at one offset, and the dry run reports the usage of
the table run. -/
theorem layoutPrimShaderLds_regions (cfg : PipelineConfig) (calcFactor : CalcFactor)
    (hverts : calcFactor.esVertsPerSubgroup.toNat ≤ 4 * NggMaxThreadsPerSubgroup)
    (hitem : 0 < calcFactor.esGsRingItemSize.toNat) (hitem' : calcFactor.esGsRingItemSize.toNat < 2 ^ 16)
    (hesGs : calcFactor.esGsLdsSize.toNat < 2 ^ 16) :
    (layoutPrimShaderLds cfg calcFactor (some [])).1 = (layoutPrimShaderLds cfg calcFactor none).1 ∧
      ∃ layout, (layoutPrimShaderLds cfg calcFactor (some [])).2 = some layout ∧
        RegionsAsDocumented cfg layout := by
  obtain ⟨layout, hlayout, hpair, hplaced⟩ := layoutPrimShaderLds_apart hverts hitem hitem' hesGs
  exact ⟨layoutPrimShaderLds_usage cfg calcFactor _, layout, hlayout,
    fun _ _ hne hs => shares_documented_of_pairwise cfg hpair hne hs, hplaced⟩

theorem layoutPrimShaderLds_regions_gsXfb :
    (layoutPrimShaderLds gsXfbConfig ⟨64, 8192, 128, 4⟩ (some [])).1 =
        (layoutPrimShaderLds gsXfbConfig ⟨64, 8192, 128, 4⟩ none).1 ∧
      ∃ layout, (layoutPrimShaderLds gsXfbConfig ⟨64, 8192, 128, 4⟩ (some [])).2 = some layout ∧
        RegionsAsDocumented gsXfbConfig layout :=
  layoutPrimShaderLds_regions _ _ (by decide) (by decide) (by decide) (by decide)

def cullingPrimIdConfig : PipelineConfig :=
  { hasGs := false, passthroughMode := false, enableSwXfb := false, xfbOutputExpCount := 0,
    enableCullDistanceCulling := false, compactVertex := false, hasTes := false, tessCoord := false,
    tesPrimitiveId := false, vertexIndex := false, instanceIndex := false, vsPrimitiveId := true,
    inputMapLocCount := 1 }

/-- With 1025 vertices per subgroup, the distributed primitive ID, restarted at 0,
runs past the 1024 dwords of the vertex position into the vertex cull info, a pair
`overlappedRegions` does not list. -/
theorem layoutPrimShaderLds_primId_overlaps_cullInfo :
    ∃ layout, (layoutPrimShaderLds cullingPrimIdConfig ⟨0, 0, 1025, 1⟩ (some [])).2 = some layout ∧
      SharesDword layout .distributedPrimitiveId .vertexCullInfo ∧
      ¬ Documented cullingPrimIdConfig .distributedPrimitiveId .vertexCullInfo :=
  ⟨_, rfl, ⟨(0, 1025), (1024, 1025), 1024, rfl, rfl, by decide, by decide⟩, by decide⟩

end NggPrimShader.Lds.Layout
