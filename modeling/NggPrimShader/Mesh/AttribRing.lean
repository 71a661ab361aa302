import NggPrimShader.Mesh.Export
import NggPrimShader.Mesh.Dispatch
import Mathlib

/-! The attribute ring of GFX11, through which attributes reach the fragment
shader: the mesh shader's `prepareAttribRingAccess` and the attribute exports
of `doExport`, and the NGG primitive shader's `processVertexAttribExport`. The
ring is a structured buffer: a store goes to the subgroup's base, plus
`vindex * STRIDE`, plus 16 bytes per location. The mesh shader's record index
is the exporting thread's `threadIdInSubgroup`; its record holds the vertex
attributes and then the primitive attributes.

The STRIDE fix-up is proved to set the stride to 16 bytes per attribute and to
keep the rest of the descriptor. Without row export, the stores of a subgroup
take pairwise distinct 16-byte slots inside its records, so every attribute
survives in the ring, whatever the order of the stores. With row export a
thread exports several vertices into the one record, and its last vertex's
attributes replace those of the earlier ones. -/

namespace NggPrimShader.Mesh.AttribRing

open NggPrimShader.Basic NggPrimShader.Mesh.Outputs NggPrimShader.Mesh.Export
  NggPrimShader.Mesh.Dispatch

def SizeOfVec4 : Nat := 16

def AttribGranularity : Nat := 32 * SizeOfVec4

def strideField (descWord1 : Nat) : Nat := createUBfe descWord1 16 14

/-- The STRIDE fix-up of word 1 of the attribute ring's descriptor, the same
code in `prepareAttribRingAccess` and `processVertexAttribExport`. The driver
sets STRIDE to 16, right for one attribute; for more, the new stride is ORed
in, once the driver's bit is cleared (`& ~0x3FFF0000` of a 32-bit word) when
the count is even. -/
def setAttribRingStride (attribCount descWord1 : Nat) : Nat :=
  if attribCount ≥ 2 then
    let stride := attribCount * SizeOfVec4
    let descWord1 := if attribCount &&& 1 = 0 then descWord1 &&& 0xC000FFFF else descWord1
    descWord1 ||| stride <<< 16
  else descWord1

structure AttribRingAccess where
  attribCount : Nat
  hasNoVertexAttrib : Bool  -- `m_hasNoVertexAttrib`: param0 is a dummy vertex attribute.
  attribRingBaseOffset : Nat  -- `m_attribRingBaseOffset`, in bytes.
  attribRingBufDescWord1 : Nat  -- Word 1 of `m_attribRingBufDesc`.
  deriving DecidableEq, Repr

/-- `prepareAttribRingAccess`, from the mesh shader's export locations, the
`attribRingBase` SGPR and word 1 of the driver's descriptor; `none` when there
is no attribute to export. -/
def prepareAttribRingAccess (usage : MeshOutputUsage) (attribRingBase descWord1 : Nat) :
    Option AttribRingAccess :=
  let vertAttribCount := exportLocCount usage.genericOutputMapLocCount usage.builtInExportLocs
  let primAttribCount :=
    exportLocCount usage.perPrimitiveGenericOutputMapLocCount usage.perPrimitiveBuiltInExportLocs
  let attribCount := vertAttribCount + primAttribCount
  if attribCount = 0 then none
  else
    let hasNoVertexAttrib := vertAttribCount == 0
    let attribCount := if hasNoVertexAttrib then attribCount + 1 else attribCount
    some ⟨attribCount, hasNoVertexAttrib, (attribRingBase &&& 0x7FFF) * AttribGranularity,
      setAttribRingStride attribCount descWord1⟩

/-- The ring offset and descriptor word 1 of the NGG primitive shader's
`processVertexAttribExport`, for `expCount` attributes and the subgroup's
`attribRingBase` (`createUBfe(attribRingBase, 0, 15)` of the SGPR); `none`
when there is no vertex attribute to export. -/
def processVertexAttribExport (attribCount attribRingBase descWord1 : Nat) : Option (Nat × Nat) :=
  if attribCount = 0 then none
  else some (attribRingBase * AttribGranularity, setAttribRingStride attribCount descWord1)

theorem testBit_strideField (w i : Nat) :
    (strideField w).testBit i = (decide (i < 14) && w.testBit (16 + i)) := by
  simp only [strideField, createUBfe, Nat.testBit_and, Nat.testBit_shiftRight, Nat.one_shiftLeft,
    Nat.testBit_two_pow_sub_one, Bool.and_comm]

theorem strideField_or (a b : Nat) : strideField (a ||| b) = strideField a ||| strideField b :=
  Nat.eq_of_testBit_eq fun i => by
    simp only [testBit_strideField, Nat.testBit_or, Bool.and_or_distrib_left]

theorem strideField_and (a b : Nat) : strideField (a &&& b) = strideField a &&& strideField b :=
  Nat.eq_of_testBit_eq fun i => by
    by_cases hi : i < 14 <;> simp [testBit_strideField, Nat.testBit_and, hi]

theorem strideField_shiftLeft (s : Nat) : strideField (s <<< 16) = s % 2 ^ 14 := by
  simp [strideField, createUBfe_eq, Nat.shiftLeft_eq, Nat.mul_div_cancel _ (Nat.two_pow_pos 16)]

theorem strideField_setAttribRingStride {attribCount descWord1 : Nat}
    (hw : strideField descWord1 = SizeOfVec4) (h1 : 1 ≤ attribCount) (hc : attribCount < 2 ^ 10) :
    strideField (setAttribRingStride attribCount descWord1) = attribCount * SizeOfVec4 := by
  have hs : attribCount * SizeOfVec4 % 2 ^ 14 = attribCount * SizeOfVec4 :=
    Nat.mod_eq_of_lt (by unfold SizeOfVec4; omega)
  unfold setAttribRingStride
  split_ifs with h2 heven
  · rw [strideField_or, strideField_and, hw, strideField_shiftLeft, hs,
      show strideField 0xC000FFFF = 0 by decide, Nat.and_zero, Nat.zero_or]
  · obtain ⟨k, rfl⟩ : ∃ k, attribCount = 2 * k + 1 :=
      ⟨attribCount / 2, by have := Nat.and_one_is_mod attribCount; omega⟩
    have hodd : (2 * k + 1) * SizeOfVec4 = 2 ^ 5 * k ||| 16 := by
      rw [← Nat.mul_add_lt_is_or (by decide)]; unfold SizeOfVec4; ring
    rw [strideField_or, hw, strideField_shiftLeft, hs, hodd, SizeOfVec4, Nat.lor_comm 16,
      Nat.lor_assoc, Nat.or_self]
  · obtain rfl : attribCount = 1 := by omega
    simpa using hw

theorem testBit_setAttribRingStride {attribCount descWord1 i : Nat} (hw : descWord1 < 2 ^ 32)
    (hc : attribCount < 2 ^ 10) (hi : i < 16 ∨ 30 ≤ i) :
    (setAttribRingStride attribCount descWord1).testBit i = descWord1.testBit i := by
  have hstride : ((attribCount * SizeOfVec4) <<< 16).testBit i = false := by
    rw [Nat.testBit_shiftLeft]
    rcases hi with hi | hi
    · simp [hi]
    · simp only [Bool.and_eq_false_imp, decide_eq_true_eq]
      exact fun _ => Nat.testBit_lt_two_pow (lt_of_lt_of_le (by unfold SizeOfVec4; omega)
        (Nat.pow_le_pow_right (by decide) (by omega : 14 ≤ i - 16)))
  have hmask : i < 32 → (0xC000FFFF : Nat).testBit i = true := by
    have : ∀ j < 32, (j < 16 ∨ 30 ≤ j) → (0xC000FFFF : Nat).testBit j = true := by decide
    exact fun h => this i h hi
  unfold setAttribRingStride
  split_ifs
  · rw [Nat.testBit_or, Nat.testBit_and, hstride, Bool.or_false]
    rcases Nat.lt_or_ge i 32 with h32 | h32
    · rw [hmask h32, Bool.and_true]
    · rw [Nat.testBit_lt_two_pow (lt_of_lt_of_le hw (Nat.pow_le_pow_right (by decide) h32)),
        Bool.false_and]
  · rw [Nat.testBit_or, hstride, Bool.or_false]
  · rfl

/-- The STRIDE fix-up of both shaders leaves a descriptor word whose STRIDE is
16 bytes per attribute and whose other bits are the driver's. -/
theorem setAttribRingStride_fields {attribCount descWord1 : Nat} (hw : strideField descWord1 = SizeOfVec4)
    (hw32 : descWord1 < 2 ^ 32) (h1 : 1 ≤ attribCount) (hc : attribCount < 2 ^ 10) :
    strideField (setAttribRingStride attribCount descWord1) = attribCount * SizeOfVec4 ∧
      ∀ i, i < 16 ∨ 30 ≤ i → (setAttribRingStride attribCount descWord1).testBit i = descWord1.testBit i :=
  ⟨strideField_setAttribRingStride hw h1 hc, fun _ hi => testBit_setAttribRingStride hw32 hc hi⟩

theorem setAttribRingStride_fields_three :
    strideField 0xC0101234 = SizeOfVec4 ∧ 0xC0101234 < 2 ^ 32 ∧
      strideField (setAttribRingStride 3 0xC0101234) = 3 * SizeOfVec4 ∧
      ∀ i, i < 16 ∨ 30 ≤ i → (setAttribRingStride 3 0xC0101234).testBit i = Nat.testBit 0xC0101234 i :=
  have h := setAttribRingStride_fields (by decide : strideField 0xC0101234 = SizeOfVec4) (by decide)
    (by decide : 1 ≤ 3) (by decide)
  ⟨by decide, by decide, h.1, h.2⟩

def structBufferOffset (descWord1 vindex voffset soffset : Nat) : Nat :=
  soffset + vindex * strideField descWord1 + voffset

inductive ExportKind
  | pos
  | prim
  | vertAttr
  | primAttr
  deriving DecidableEq, Repr

def attribRingExportIndex (access : AttribRingAccess) (kind : ExportKind) (e : ExportInfo) : Nat :=
  if kind = .primAttr ∧ access.hasNoVertexAttrib then e.index + 1 else e.index

/-- The store of an attribute export to the ring in `doExport` on GFX11: its
four channels, a null one as poison, at `vindex = threadIdInSubgroup`,
`voffset = exportIndex * SizeOfVec4` and `soffset = attribRingBaseOffset`. -/
def attribRingStore (access : AttribRingAccess) (kind : ExportKind) (threadIdInSubgroup : Nat)
    (e : ExportInfo) : Nat × List Nat :=
  (structBufferOffset access.attribRingBufDescWord1 threadIdInSubgroup
      (attribRingExportIndex access kind e * SizeOfVec4) access.attribRingBaseOffset,
    e.values.map (·.getD poison))

def runRingStores (ring : Nat → List Nat) (stores : List (Nat × List Nat)) : Nat → List Nat :=
  stores.foldl (fun ring s => Function.update ring s.1 s.2) ring

def threadExportIndices (rowExport : Bool) (g : MeshWaves) (threadIdInSubgroup count : Nat) : List Nat :=
  if rowExport then rowExportLoop g threadIdInSubgroup count 0
  else if threadIdInSubgroup < count then [threadIdInSubgroup] else []

structure MeshExportInputs where
  usage : MeshOutputUsage
  nextFs : Option FsBuiltInUsage
  lds : Nat → Nat
  vertexBuiltIns : Nat → VertexBuiltIns
  primitiveBuiltIns : Nat → PrimitiveBuiltIns
  vertexLdsOffsetBase : Nat → Nat
  primitiveLdsOffsetBase : Nat → Nat

def MeshExportInputs.vertAttrExports (x : MeshExportInputs) (vertexIndex : Nat) : List ExportInfo :=
  Export.vertAttrExports x.usage (x.vertexBuiltIns vertexIndex) x.nextFs x.lds
    (x.vertexLdsOffsetBase vertexIndex)

def MeshExportInputs.primAttrExports (x : MeshExportInputs) (primitiveIndex : Nat) : List ExportInfo :=
  Export.primAttrExports x.usage (x.primitiveBuiltIns primitiveIndex) x.nextFs x.lds
    (x.primitiveLdsOffsetBase primitiveIndex)

/-- The inputs' export locations fit the ring record: the location map is well
formed, and each vertex's clip and cull distance attributes (one location, two
past four distances) lie below the vertex attribute count, which
`prepareAttribRingAccess` takes as one past the map's largest location. -/
structure MeshExportInputs.WellFormed (x : MeshExportInputs) : Prop where
  usage : x.usage.WellFormed
  clipCull_fit : ∀ v, 0 < clipCullAttrLocs (x.vertexBuiltIns v) x.nextFs →
    clipCullExportLoc x.usage + clipCullAttrLocs (x.vertexBuiltIns v) x.nextFs ≤
      exportLocCount x.usage.genericOutputMapLocCount x.usage.builtInExportLocs

/-- One thread's attribute-ring stores in program order: those of the
primitives it exports, then those of its vertices. -/
def threadRingStores (access : AttribRingAccess) (x : MeshExportInputs) (rowExport : Bool)
    (g : MeshWaves) (vertexCount primitiveCount threadIdInSubgroup : Nat) : List (Nat × List Nat) :=
  (threadExportIndices rowExport g threadIdInSubgroup primitiveCount).flatMap (fun p =>
    (x.primAttrExports p).map (attribRingStore access .primAttr threadIdInSubgroup)) ++
  (threadExportIndices rowExport g threadIdInSubgroup vertexCount).flatMap (fun v =>
    (x.vertAttrExports v).map (attribRingStore access .vertAttr threadIdInSubgroup))

def subgroupRingStores (access : AttribRingAccess) (x : MeshExportInputs) (rowExport : Bool)
    (g : MeshWaves) (vertexCount primitiveCount : Nat) : List (Nat × List Nat) :=
  g.threads.flatMap (threadRingStores access x rowExport g vertexCount primitiveCount)

theorem runRingStores_append (ring : Nat → List Nat) (l₁ l₂ : List (Nat × List Nat)) :
    runRingStores ring (l₁ ++ l₂) = runRingStores (runRingStores ring l₁) l₂ :=
  List.foldl_append _ _ _ _

theorem runRingStores_filter (ring : Nat → List Nat) (stores : List (Nat × List Nat)) (a : Nat) :
    runRingStores ring stores a = runRingStores ring (stores.filter fun s => s.1 = a) a := by
  induction stores using List.reverseRecOn generalizing ring with
  | nil => rfl
  | append_singleton stores s ih =>
    rw [List.filter_append, runRingStores_append, runRingStores_append]
    by_cases hs : s.1 = a
    · simp [runRingStores, hs]
    · simp only [runRingStores, List.foldl_cons, List.foldl_nil, List.filter_singleton, hs,
        decide_False, cond_false, List.foldl_nil]
      rw [Function.update_noteq (Ne.symm hs)]
      exact ih ring

theorem runRingStores_of_mem (ring : Nat → List Nat) {stores : List (Nat × List Nat)}
    (hnd : (stores.map Prod.fst).Nodup) {s : Nat × List Nat} (hs : s ∈ stores) :
    runRingStores ring stores s.1 = s.2 := by
  have hfilter : (stores.filter fun s' => s'.1 = s.1) = [s] := by
    induction stores with
    | nil => cases hs
    | cons s' stores ih =>
      rw [List.map_cons, List.nodup_cons] at hnd
      rcases List.mem_cons.mp hs with rfl | hs
      · rw [List.filter_cons_of_pos (by simp), List.filter_eq_nil_iff.mpr fun x hx hxs =>
          hnd.1 (List.mem_map.mpr ⟨x, hx, by simpa using hxs⟩)]
      · rw [List.filter_cons_of_neg fun h => hnd.1 (List.mem_map.mpr ⟨s, hs, (by simpa using h : s'.1 = s.1).symm⟩),
          ih hnd.2 hs]
  rw [runRingStores_filter, hfilter]
  simp [runRingStores]

section Access

variable {usage : MeshOutputUsage} {attribRingBase descWord1 : Nat} {access : AttribRingAccess}

theorem prepareAttribRingAccess_spec
    (haccess : prepareAttribRingAccess usage attribRingBase descWord1 = some access) :
    access.attribCount = exportLocCount usage.genericOutputMapLocCount usage.builtInExportLocs +
        exportLocCount usage.perPrimitiveGenericOutputMapLocCount usage.perPrimitiveBuiltInExportLocs +
        (if exportLocCount usage.genericOutputMapLocCount usage.builtInExportLocs = 0 then 1 else 0) ∧
      0 < access.attribCount ∧
      access.hasNoVertexAttrib = (exportLocCount usage.genericOutputMapLocCount usage.builtInExportLocs == 0) ∧
      access.attribRingBaseOffset = (attribRingBase &&& 0x7FFF) * AttribGranularity ∧
      access.attribRingBufDescWord1 = setAttribRingStride access.attribCount descWord1 := by
  unfold prepareAttribRingAccess at haccess
  dsimp only at haccess
  split_ifs at haccess with h0 hv <;> obtain rfl := Option.some.inj haccess
  · have hv : exportLocCount usage.genericOutputMapLocCount usage.builtInExportLocs = 0 := by simpa using hv
    simp [hv]
  · have hv : exportLocCount usage.genericOutputMapLocCount usage.builtInExportLocs ≠ 0 := by simpa using hv
    simp [hv]
    omega

theorem attribRingExportIndex_vertAttr {v : VertexBuiltIns} {nextFs : Option FsBuiltInUsage}
    {lds : Nat → Nat} {ldsOffsetBase : Nat} {e : ExportInfo}
    (he : e ∈ vertAttrExports usage v nextFs lds ldsOffsetBase)
    (hfit : 0 < clipCullAttrLocs v nextFs → clipCullExportLoc usage + clipCullAttrLocs v nextFs ≤
      exportLocCount usage.genericOutputMapLocCount usage.builtInExportLocs) :
    attribRingExportIndex access .vertAttr e <
      exportLocCount usage.genericOutputMapLocCount usage.builtInExportLocs := by
  have := le_exportLocCount usage.genericOutputMapLocCount usage.builtInExportLocs
  rcases index_of_mem_vertAttrExports he with h | h
  · simp [attribRingExportIndex]; omega
  · have := hfit (by omega)
    simp [attribRingExportIndex]; omega

theorem attribRingExportIndex_primAttr
    (haccess : prepareAttribRingAccess usage attribRingBase descWord1 = some access)
    {b : PrimitiveBuiltIns} {nextFs : Option FsBuiltInUsage} {lds : Nat → Nat} {ldsOffsetBase : Nat}
    {e : ExportInfo} (he : e ∈ primAttrExports usage b nextFs lds ldsOffsetBase) :
    exportLocCount usage.genericOutputMapLocCount usage.builtInExportLocs ≤
        attribRingExportIndex access .primAttr e ∧
      attribRingExportIndex access .primAttr e < access.attribCount := by
  obtain ⟨hcount, -, hno, -⟩ := prepareAttribRingAccess_spec haccess
  have := index_of_mem_primAttrExports he
  by_cases hv : exportLocCount usage.genericOutputMapLocCount usage.builtInExportLocs = 0 <;>
    simp_all [attribRingExportIndex]

theorem attribRingStore_fst (haccess : prepareAttribRingAccess usage attribRingBase descWord1 = some access)
    (hw : strideField descWord1 = SizeOfVec4) (hc : access.attribCount < 2 ^ 10) (kind : ExportKind)
    (threadIdInSubgroup : Nat) (e : ExportInfo) :
    (attribRingStore access kind threadIdInSubgroup e).1 = access.attribRingBaseOffset +
      (threadIdInSubgroup * access.attribCount + attribRingExportIndex access kind e) * SizeOfVec4 := by
  obtain ⟨-, hpos, -, -, hword⟩ := prepareAttribRingAccess_spec haccess
  rw [attribRingStore, structBufferOffset, hword, strideField_setAttribRingStride hw hpos hc]
  ring

end Access

theorem attribRingExportIndex_eq (access : AttribRingAccess) (kind : ExportKind) (e : ExportInfo) :
    attribRingExportIndex access kind e =
      e.index + if kind = .primAttr ∧ access.hasNoVertexAttrib then 1 else 0 := by
  unfold attribRingExportIndex
  split_ifs <;> rfl

section Subgroup

variable {x : MeshExportInputs} {attribRingBase descWord1 : Nat} {access : AttribRingAccess}
  (haccess : prepareAttribRingAccess x.usage attribRingBase descWord1 = some access)
  (hw : strideField descWord1 = SizeOfVec4) (hc : access.attribCount < 2 ^ 10)
  (hwf : x.WellFormed)

include haccess hw hc hwf in
theorem mem_threadRingStores {rowExport : Bool} {g : MeshWaves} {vertexCount primitiveCount t : Nat}
    {s : Nat × List Nat} (hs : s ∈ threadRingStores access x rowExport g vertexCount primitiveCount t) :
    ∃ idx < access.attribCount,
      s.1 = access.attribRingBaseOffset + (t * access.attribCount + idx) * SizeOfVec4 := by
  have hvert : exportLocCount x.usage.genericOutputMapLocCount x.usage.builtInExportLocs ≤
      access.attribCount := by
    rw [(prepareAttribRingAccess_spec haccess).1]; omega
  simp only [threadRingStores, List.mem_append, List.mem_flatMap, List.mem_map] at hs
  rcases hs with ⟨p, -, e, he, rfl⟩ | ⟨v, -, e, he, rfl⟩
  · exact ⟨_, (attribRingExportIndex_primAttr haccess he).2, attribRingStore_fst haccess hw hc _ _ _⟩
  · exact ⟨_, (attribRingExportIndex_vertAttr he (hwf.clipCull_fit v)).trans_le hvert,
      attribRingStore_fst haccess hw hc _ _ _⟩

include haccess hw hc in
theorem nodup_attribRingStores (kind : ExportKind) (t : Nat) {exports : List ExportInfo}
    (hnd : (exports.map ExportInfo.index).Nodup) :
    ((exports.map (attribRingStore access kind t)).map Prod.fst).Nodup := by
  rw [List.map_map]
  have : (Prod.fst ∘ attribRingStore access kind t) = (fun k => access.attribRingBaseOffset +
      (t * access.attribCount + (k + if kind = .primAttr ∧ access.hasNoVertexAttrib then 1 else 0)) *
        SizeOfVec4) ∘ ExportInfo.index := by
    funext e
    simp only [Function.comp, attribRingStore_fst haccess hw hc, attribRingExportIndex_eq]
  rw [this, ← List.map_map]
  exact hnd.map fun a b h => by simp only [SizeOfVec4] at h; omega

include haccess hw hc hwf in
theorem nodup_threadRingStores {g : MeshWaves} {vertexCount primitiveCount t : Nat} :
    ((threadRingStores access x false g vertexCount primitiveCount t).map Prod.fst).Nodup := by
  have hprim := nodup_attribRingStores haccess hw hc .primAttr t
    (nodup_primAttrExports (x.primitiveBuiltIns t) x.nextFs x.lds (x.primitiveLdsOffsetBase t)
      hwf.usage.perPrimitive_ge hwf.usage.perPrimitive_nodup)
  have hvert := nodup_attribRingStores haccess hw hc .vertAttr t
    (nodup_vertAttrExports (x.vertexBuiltIns t) x.nextFs x.lds (x.vertexLdsOffsetBase t) hwf.usage.clipCull_ge)
  -- the primitive attributes sit past the vertex attributes
  have hdisj : (((x.primAttrExports t).map (attribRingStore access .primAttr t)).map Prod.fst).Disjoint
      (((x.vertAttrExports t).map (attribRingStore access .vertAttr t)).map Prod.fst) := by
    intro a ha hb
    simp only [List.map_map, List.mem_map, Function.comp] at ha hb
    obtain ⟨e, he, rfl⟩ := ha
    obtain ⟨e', he', heq⟩ := hb
    rw [attribRingStore_fst haccess hw hc, attribRingStore_fst haccess hw hc] at heq
    have := (attribRingExportIndex_primAttr haccess he).1
    have : attribRingExportIndex access .vertAttr e' < _ := attribRingExportIndex_vertAttr he' (hwf.clipCull_fit t)
    simp only [SizeOfVec4] at heq
    omega
  simp only [threadRingStores, threadExportIndices, Bool.false_eq_true, if_false]
  split_ifs <;> simp only [List.flatMap_cons, List.flatMap_nil, List.append_nil, List.nil_append,
    List.map_append, List.map_nil, List.nodup_append, List.nodup_nil]
  exacts [⟨hprim, hvert, hdisj⟩, hprim, hvert]

include haccess hw hc hwf in
theorem threadRingStores_disjoint {rowExport : Bool} {g : MeshWaves} {vertexCount primitiveCount t t' : Nat}
    (hne : t ≠ t') :
    ((threadRingStores access x rowExport g vertexCount primitiveCount t).map Prod.fst).Disjoint
      ((threadRingStores access x rowExport g vertexCount primitiveCount t').map Prod.fst) := by
  intro a ha hb
  obtain ⟨s, hs, rfl⟩ := List.mem_map.mp ha
  obtain ⟨s', hs', heq⟩ := List.mem_map.mp hb
  obtain ⟨i, hi, h⟩ := mem_threadRingStores haccess hw hc hwf hs
  obtain ⟨i', hi', h'⟩ := mem_threadRingStores haccess hw hc hwf hs'
  rw [h, h'] at heq
  have : t * access.attribCount + i = t' * access.attribCount + i' := by
    simp only [SizeOfVec4] at heq; omega
  exact hne (mul_add_eq_mul_add hi hi' this).1

include haccess hw hc in
theorem strideField_attribRingBufDescWord1 :
    strideField access.attribRingBufDescWord1 = access.attribCount * SizeOfVec4 := by
  obtain ⟨-, hpos, -, -, hword⟩ := prepareAttribRingAccess_spec haccess
  rw [hword, strideField_setAttribRingStride hw hpos hc]

include haccess hw hc hwf in
/-- Without row export, every attribute store of a subgroup goes to a 16-byte
slot of its thread's record, as the descriptor's stride lays the records out,
no two stores share a slot, and so, in whatever order the stores reach the
ring, each is read back. -/
theorem attribRing_exports_survive (g : MeshWaves) (vertexCount primitiveCount : Nat) :
    let stride := strideField access.attribRingBufDescWord1
    (∀ t ∈ g.threads, ∀ s ∈ threadRingStores access x false g vertexCount primitiveCount t,
      access.attribRingBaseOffset + t * stride ≤ s.1 ∧
        s.1 + SizeOfVec4 ≤ access.attribRingBaseOffset + (t + 1) * stride ∧ s.1 % SizeOfVec4 = 0) ∧
    ∀ (ring : Nat → List Nat) (stores : List (Nat × List Nat)),
      stores.Perm (subgroupRingStores access x false g vertexCount primitiveCount) →
      ∀ s ∈ stores, runRingStores ring stores s.1 = s.2 := by
  intro stride
  have hstride : stride = access.attribCount * SizeOfVec4 := strideField_attribRingBufDescWord1 haccess hw hc
  have hbase : access.attribRingBaseOffset % SizeOfVec4 = 0 := by
    rw [(prepareAttribRingAccess_spec haccess).2.2.2.1, AttribGranularity, SizeOfVec4]; omega
  refine ⟨fun t _ s hs => ?_, fun ring stores hperm s hs => ?_⟩
  · obtain ⟨i, hi, h⟩ := mem_threadRingStores haccess hw hc hwf hs
    rw [hstride, h, Nat.add_mul, Nat.succ_mul, ← Nat.mul_assoc]
    simp only [SizeOfVec4] at hbase ⊢
    omega
  · have hsub : ((subgroupRingStores access x false g vertexCount primitiveCount).map Prod.fst).Nodup := by
      rw [subgroupRingStores, List.map_flatMap, List.nodup_flatMap]
      exact ⟨fun t _ => nodup_threadRingStores haccess hw hc hwf,
        (List.pairwise_lt_range _).imp fun h => threadRingStores_disjoint haccess hw hc hwf (ne_of_lt h)⟩
    exact runRingStores_of_mem ring ((hperm.map Prod.fst).nodup_iff.mpr hsub) hs

def genericOnlyInputs (primitiveLdsOffsetBase : Nat → Nat) : MeshExportInputs :=
  ⟨⟨1, [], 1, []⟩, none, fun a => a, fun _ => ⟨none, none, [], []⟩, fun _ => ⟨none, none, none, none⟩,
    fun v => 4 * v, primitiveLdsOffsetBase⟩

theorem genericOnlyInputs_wellFormed (primitiveLdsOffsetBase : Nat → Nat) :
    (genericOnlyInputs primitiveLdsOffsetBase).WellFormed :=
  ⟨show MeshOutputUsage.WellFormed ⟨1, [], 1, []⟩ by decide,
    fun _ h => absurd h (by show ¬0 < clipCullAttrLocs ⟨none, none, [], []⟩ none; decide)⟩

theorem attribRing_exports_survive_wave32 :
    let x := genericOnlyInputs fun p => 64 + 4 * p
    let access : AttribRingAccess := ⟨2, false, 512, 0x00200000⟩
    let g : MeshWaves := ⟨WaveSize.wave32, 1, Nat.one_pos⟩
    let stride := strideField access.attribRingBufDescWord1
    (∀ t ∈ g.threads, ∀ s ∈ threadRingStores access x false g 2 1 t,
      access.attribRingBaseOffset + t * stride ≤ s.1 ∧
        s.1 + SizeOfVec4 ≤ access.attribRingBaseOffset + (t + 1) * stride ∧ s.1 % SizeOfVec4 = 0) ∧
    ∀ (ring : Nat → List Nat) (stores : List (Nat × List Nat)),
      stores.Perm (subgroupRingStores access x false g 2 1) →
      ∀ s ∈ stores, runRingStores ring stores s.1 = s.2 :=
  attribRing_exports_survive
    (rfl : prepareAttribRingAccess ⟨1, [], 1, []⟩ 1 0x00100000 = some ⟨2, false, 512, 0x00200000⟩)
    (by decide) (by decide) (genericOnlyInputs_wellFormed _) _ 2 1

theorem rowExportLoop_two (g : MeshWaves) {vertexCount t : Nat}
    (hv : t + g.numWaves * g.waveSize.val < vertexCount)
    (hv2 : vertexCount ≤ t + 2 * (g.numWaves * g.waveSize.val)) :
    rowExportLoop g t vertexCount 0 = [t, t + g.numWaves * g.waveSize.val] := by
  have h2 : (0 + g.numWaves + g.numWaves) * g.waveSize.val = 2 * (g.numWaves * g.waveSize.val) := by
    ring
  rw [rowExportLoop, if_pos (by omega), rowExportLoop, if_pos (by rw [Nat.zero_add]; omega),
    rowExportLoop, if_neg (by rw [h2]; omega)]
  simp

theorem flatMap_eq_single {β : Type} {l : List Nat} {F : Nat → List β} {t : Nat} (hnd : l.Nodup)
    (ht : t ∈ l) (h : ∀ t' ∈ l, t' ≠ t → F t' = []) : l.flatMap F = F t := by
  induction l with
  | nil => cases ht
  | cons t₀ l ih =>
    obtain ⟨hnot, hnd⟩ := List.nodup_cons.mp hnd
    rw [List.flatMap_cons]
    rcases List.mem_cons.mp ht with rfl | ht
    · rw [List.flatMap_eq_nil_iff.mpr fun t' ht' => h t' (List.mem_cons_of_mem _ ht')
        fun he => hnot (he ▸ ht'), List.append_nil]
    · rw [h t₀ (List.mem_cons_self _ _) fun he => hnot (he ▸ ht), List.nil_append,
        ih hnd ht fun t' ht' => h t' (List.mem_cons_of_mem _ ht')]

include haccess hw hc hwf in
/-- With row export, thread `t` exports vertices `t` and `t + N` when the vertex
count lies between `t + N` and `t + 2N`, and the attribute stores of both go to
the thread's record: generic output 0 of both is stored to the one slot, and
the ring ends up holding vertex `t + N`'s value there, whatever the other
threads store. -/
theorem attribRing_rowExport_overwrites (hgeneric : 0 < x.usage.genericOutputMapLocCount) (g : MeshWaves)
    {vertexCount t : Nat} (primitiveCount : Nat) (ht : t < g.numWaves * g.waveSize.val)
    (hv : t + g.numWaves * g.waveSize.val < vertexCount)
    (hv2 : vertexCount ≤ t + 2 * (g.numWaves * g.waveSize.val)) (ring : Nat → List Nat) :
    let generic0 (v : Nat) := attribRingStore access .vertAttr t
      (ExportInfo.ofVec4 0 (readValueFromLds x.lds 4 (x.vertexLdsOffsetBase v)))
    let stores := subgroupRingStores access x true g vertexCount primitiveCount
    generic0 t ∈ stores ∧ generic0 (t + g.numWaves * g.waveSize.val) ∈ stores ∧
      runRingStores ring stores (generic0 t).1 =
        readValueFromLds x.lds 4 (x.vertexLdsOffsetBase (t + g.numWaves * g.waveSize.val)) := by
  intro generic0 stores
  have hpos : 0 < access.attribCount := (prepareAttribRingAccess_spec haccess).2.1
  have ha : (generic0 t).1 = access.attribRingBaseOffset + (t * access.attribCount + 0) * SizeOfVec4 := by
    rw [attribRingStore_fst haccess hw hc]; simp [attribRingExportIndex, ExportInfo.ofVec4]
  have hgen : ∀ v, generic0 v ∈ (x.vertAttrExports v).map (attribRingStore access .vertAttr t) := fun v =>
    List.mem_map.mpr ⟨_, List.mem_append_left _ (List.mem_map.mpr ⟨0, List.mem_range.mpr hgeneric,
      by simp⟩), rfl⟩
  have hloop := rowExportLoop_two g hv hv2
  have hmem : ∀ v ∈ [t, t + g.numWaves * g.waveSize.val], generic0 v ∈ stores := fun v hvt =>
    List.mem_flatMap.mpr ⟨t, List.mem_range.mpr ht, List.mem_append_right _ (List.mem_flatMap.mpr
      ⟨v, by rwa [threadExportIndices, if_pos rfl, hloop], hgen v⟩)⟩
  -- only thread `t` stores to the slot
  have hothers : ∀ t' ∈ g.threads, t' ≠ t →
      (threadRingStores access x true g vertexCount primitiveCount t').filter
        (fun s => s.1 = (generic0 t).1) = [] := by
    intro t' _ hne
    refine List.filter_eq_nil_iff.mpr fun s hs hse => hne ?_
    obtain ⟨i, hi, h⟩ := mem_threadRingStores haccess hw hc hwf hs
    rw [decide_eq_true_eq, h, ha] at hse
    exact (mul_add_eq_mul_add hi hpos (by simp only [SizeOfVec4] at hse; omega)).1
  -- within vertex `t + N`'s stores, generic output 0 is the only store to the slot
  have hnd : (((x.vertAttrExports (t + g.numWaves * g.waveSize.val)).map
      (attribRingStore access .vertAttr t)).map Prod.fst).Nodup :=
    nodup_attribRingStores haccess hw hc .vertAttr t (nodup_vertAttrExports _ _ _ _ hwf.usage.clipCull_ge)
  have hthreads : g.threads.Nodup := List.nodup_range _
  refine ⟨hmem t (List.mem_cons_self _ _), hmem _ (List.mem_cons_of_mem _ (List.mem_singleton_self _)), ?_⟩
  unfold stores
  rw [runRingStores_filter, subgroupRingStores, List.filter_flatMap,
    flatMap_eq_single hthreads (List.mem_range.mpr ht) hothers, ← runRingStores_filter,
    threadRingStores, threadExportIndices, threadExportIndices, if_pos rfl, if_pos rfl,
    hloop, List.flatMap_cons, List.flatMap_singleton, runRingStores_append,
    runRingStores_append, show (generic0 t).1 = (generic0 (t + g.numWaves * g.waveSize.val)).1 from rfl,
    runRingStores_of_mem _ hnd (hgen _)]
  simp [generic0, attribRingStore, ExportInfo.ofVec4, readValueFromLds, Function.comp_def,
    List.take_of_length_le]

theorem attribRing_rowExport_overwrites_wave32 :
    let x := genericOnlyInputs fun p => 256 + 4 * p
    let access : AttribRingAccess := ⟨2, false, 512, 0x00200000⟩
    let g : MeshWaves := ⟨WaveSize.wave32, 1, Nat.one_pos⟩
    let generic0 (v : Nat) := attribRingStore access .vertAttr 0
      (ExportInfo.ofVec4 0 (readValueFromLds x.lds 4 (x.vertexLdsOffsetBase v)))
    let stores := subgroupRingStores access x true g 40 1
    generic0 0 ∈ stores ∧ generic0 32 ∈ stores ∧
      runRingStores (fun _ => []) stores (generic0 0).1 = readValueFromLds x.lds 4 (x.vertexLdsOffsetBase 32) :=
  attribRing_rowExport_overwrites
    (rfl : prepareAttribRingAccess ⟨1, [], 1, []⟩ 1 0x00100000 = some ⟨2, false, 512, 0x00200000⟩)
    (by decide) (by decide) (genericOnlyInputs_wellFormed _) (by decide) _ 1 (by decide) (by decide)
    (by decide) _

end Subgroup

end NggPrimShader.Mesh.AttribRing
