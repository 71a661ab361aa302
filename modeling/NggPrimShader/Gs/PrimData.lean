import NggPrimShader.Gs.EmitCut
import Mathlib.Data.List.FinRange

/-! The primitive data of a subgroup after the GS phase of `buildPrimShaderWithGs`:
`.initOutPrimData` sets the entries of every active stream to `NullPrim`, a
barrier follows, and then every GS invocation's emit handler writes the winding
of each primitive it completes. `exportPrimitiveWithGs` turns an entry into the
connectivity word the primitive export sends. -/
namespace NggPrimShader.Gs.PrimData

open NggPrimShader.Basic NggPrimShader.Gs.EmitCut

def startsPrimitive (k : Nat) : List Nat → Nat → Nat → Bool
  | [], _, _ => false
  | n :: ns, j, p => if j < n then j == p && decide (p + k ≤ n) else startsPrimitive k ns (j - n) p

theorem startsPrimitive_bound {k : Nat} {ls : List Nat} {j p : Nat}
    (h : startsPrimitive k ls j p) : j + k ≤ ls.sum := by
  induction ls generalizing j with
  | nil => simp [startsPrimitive] at h
  | cons n ns ih =>
    simp only [startsPrimitive] at h
    split_ifs at h with hj
    · simp only [Bool.and_eq_true, beq_iff_eq, decide_eq_true_eq] at h
      simp only [List.sum_cons]
      omega
    · have := ih h
      simp only [List.sum_cons]
      omega

theorem startsPrimitive_unique {k : Nat} {ls : List Nat} {j p p' : Nat}
    (h : startsPrimitive k ls j p) (h' : startsPrimitive k ls j p') : p = p' := by
  induction ls generalizing j with
  | nil => simp [startsPrimitive] at h
  | cons n ns ih =>
    simp only [startsPrimitive] at h h'
    split_ifs at h h'
    · simp only [Bool.and_eq_true, beq_iff_eq] at h h'
      omega
    · exact ih h h'

theorem mem_stripPrims {k : Nat} (hk : 0 < k) (first : Nat) (ls : List Nat) (j p : Nat) :
    (j, p) ∈ stripPrims k first ls ↔ first ≤ j ∧ startsPrimitive k ls (j - first) p := by
  induction ls generalizing first with
  | nil => simp [stripPrims, startsPrimitive]
  | cons n ns ih =>
    simp only [stripPrims, List.mem_append, List.mem_map, List.mem_range, Prod.mk.injEq, ih,
      startsPrimitive]
    by_cases hj : j - first < n
    · simp only [hj, if_true, Bool.and_eq_true, beq_iff_eq, decide_eq_true_eq]
      constructor
      · rintro (⟨a, ha, rfl, rfl⟩ | ⟨h1, -⟩) <;> omega
      · rintro ⟨h1, rfl, h3⟩
        exact Or.inl ⟨j - first, by omega, by omega, rfl⟩
    · simp only [hj, if_false, Nat.sub_sub]
      constructor
      · rintro (⟨a, ha, rfl, rfl⟩ | ⟨h1, h2⟩)
        · omega
        · exact ⟨by omega, h2⟩
      · rintro ⟨h1, h2⟩
        exact Or.inr ⟨by omega, h2⟩

theorem stripsOf_sum (s : Fin MaxGsStreams) (msgs : List GsMessage) :
    (stripsOf s msgs).lengths.sum = msgs.count (.emit s) := by
  induction msgs using List.reverseRecOn with
  | nil => rfl
  | append_singleton msgs msg ih =>
    rw [stripsOf_append, List.count_append, ← ih]
    cases msg with
    | emit s' =>
      by_cases h : s' = s <;> simp [Strips.step, Strips.lengths, List.count_singleton, h, Nat.add_assoc]
    | cut s' => by_cases h : s' = s <;> simp [Strips.step, Strips.lengths, h]

section Invocation

variable (mode : GeometryShaderMode) (rasterStream : Fin MaxGsStreams) (enableSwXfb : Bool)
  (t : Nat) (msgs : List GsMessage)

theorem runGs_handled {st : PrimDataStore} (h : st ∈ (runGs mode rasterStream enableSwXfb t msgs).2) :
    isHandledStream rasterStream enableSwXfb st.streamId := by
  induction msgs using List.reverseRecOn with
  | nil => simp [runGs] at h
  | append_singleton msgs msg ih =>
    rw [runGs, List.foldl_append, ← runGs] at h
    simp only [List.foldl_cons, List.foldl_nil] at h
    cases msg with
    | emit s =>
      simp only [processGsMessage] at h
      split_ifs at h with hs
      · rcases List.mem_append.mp h with h | h
        · exact ih h
        · simp only [gsEmit] at h
          split_ifs at h <;> simp only [List.mem_singleton, List.not_mem_nil] at h
          exact h ▸ hs
      · exact ih h
    | cut s =>
      simp only [processGsMessage] at h
      split_ifs at h <;> exact ih h

theorem mem_runGs {st : PrimDataStore} (h : st ∈ (runGs mode rasterStream enableSwXfb t msgs).2) :
    ∃ j p, startsPrimitive mode.outputPrimitive.verticesPerPrimitive
        (stripsOf st.streamId msgs).lengths j p ∧
      st.vertexIndex = t * mode.outputVertices + j ∧ st.winding = stripWinding mode.outputPrimitive p := by
  have hf : st ∈ (runGs mode rasterStream enableSwXfb t msgs).2.filter (·.streamId == st.streamId) :=
    List.mem_filter.mpr ⟨h, by simp⟩
  rw [(runGs_stream mode rasterStream enableSwXfb t (runGs_handled mode rasterStream enableSwXfb t msgs h)
    msgs).2.2, apiStores, List.mem_map] at hf
  obtain ⟨⟨j, p⟩, hjp, hst⟩ := hf
  rw [mem_stripPrims (OutputPrimitives.verticesPerPrimitive_pos _)] at hjp
  exact ⟨j, p, by simpa using hjp.2, by rw [← hst], by rw [← hst]⟩

theorem mem_runGs_of_starts {s : Fin MaxGsStreams} (hs : isHandledStream rasterStream enableSwXfb s)
    {j p : Nat} (h : startsPrimitive mode.outputPrimitive.verticesPerPrimitive (stripsOf s msgs).lengths j p) :
    ⟨s, t * mode.outputVertices + j, stripWinding mode.outputPrimitive p⟩ ∈
      (runGs mode rasterStream enableSwXfb t msgs).2 := by
  have hf : (⟨s, t * mode.outputVertices + j, stripWinding mode.outputPrimitive p⟩ : PrimDataStore) ∈
      (runGs mode rasterStream enableSwXfb t msgs).2.filter (·.streamId == s) := by
    rw [(runGs_stream mode rasterStream enableSwXfb t hs msgs).2.2, apiStores, List.mem_map]
    exact ⟨(j, p), (mem_stripPrims (OutputPrimitives.verticesPerPrimitive_pos _) _ _ _ _).mpr
      ⟨Nat.zero_le _, by simpa using h⟩, rfl⟩
  exact (List.mem_filter.mp hf).1

end Invocation

def isStreamActive (enableSwXfb : Bool) (streamXfbBuffers : Fin MaxGsStreams → Nat)
    (rasterStream i : Fin MaxGsStreams) : Bool :=
  if enableSwXfb then streamXfbBuffers i != 0 || i == rasterStream else i == rasterStream

theorem isHandledStream_of_active {enableSwXfb : Bool} {streamXfbBuffers : Fin MaxGsStreams → Nat}
    {rasterStream i : Fin MaxGsStreams} (h : isStreamActive enableSwXfb streamXfbBuffers rasterStream i) :
    isHandledStream rasterStream enableSwXfb i := by
  cases enableSwXfb
  · simpa [isStreamActive, isHandledStream] using h
  · rfl

/-- `.initOutPrimData`: each thread below `primCountInSubgroup` writes `NullPrim`
to its entry of every active stream (offsets within the region). -/
def initOutPrimData (enableSwXfb : Bool) (streamXfbBuffers : Fin MaxGsStreams → Nat)
    (rasterStream : Fin MaxGsStreams) (primCountInSubgroup : Nat) : List (Nat × Nat) :=
  (List.range primCountInSubgroup).flatMap fun t =>
    ((List.finRange MaxGsStreams).filter (isStreamActive enableSwXfb streamXfbBuffers rasterStream)).map
      fun i : Fin MaxGsStreams => (t + NggMaxThreadsPerSubgroup * i.val, NullPrim)

def gsRuns (ws : WaveSize) (primCountInWave : Nat → Nat) (t : Nat) : Bool :=
  decide (t % ws.val < primCountInWave (t / ws.val))

variable (mode : GeometryShaderMode) (rasterStream : Fin MaxGsStreams) (enableSwXfb : Bool)
  (ws : WaveSize) (primCountInWave : Nat → Nat) (msgsOf : Nat → List GsMessage)

def gsPhaseStores : List (Nat × Nat) :=
  ((List.range NggMaxThreadsPerSubgroup).filter (gsRuns ws primCountInWave)).flatMap fun t =>
    (runGs mode rasterStream enableSwXfb t (msgsOf t)).2.map fun st => (st.offset, st.winding)

/-- The primitive data region after the GS phase: the initial stores in the
order `initOrder`, the barrier, then the GS stores in the order `gsOrder`. -/
def gsPhaseLds (lds : Nat → Nat) (initOrder gsOrder : List (Nat × Nat)) : Nat → Nat :=
  runStores (runStores lds initOrder) gsOrder

/-- The GS invocations fit the region as the amplification factor `max_vertices`
lays it out: invocation `t` owns entries `t·outputVertices …` below
`primCountInSubgroup`, and no invocation emits more than `outputVertices`
vertices on a stream. -/
structure GsFits (primCountInSubgroup : Nat) : Prop where
  cover : ∀ t < NggMaxThreadsPerSubgroup, gsRuns ws primCountInWave t →
    (t + 1) * mode.outputVertices ≤ primCountInSubgroup
  region : primCountInSubgroup ≤ NggMaxThreadsPerSubgroup
  emits : ∀ t < NggMaxThreadsPerSubgroup, gsRuns ws primCountInWave t →
    ∀ s, (msgsOf t).count (.emit s) ≤ mode.outputVertices

theorem slot_inj {n t t' j j' s s' : Nat} (hj : j < n) (hj' : j' < n)
    (h : (t + 1) * n ≤ NggMaxThreadsPerSubgroup) (h' : (t' + 1) * n ≤ NggMaxThreadsPerSubgroup)
    (he : t * n + j + NggMaxThreadsPerSubgroup * s = t' * n + j' + NggMaxThreadsPerSubgroup * s') :
    s = s' ∧ t = t' ∧ j = j' := by
  rw [Nat.succ_mul] at h h'
  unfold NggMaxThreadsPerSubgroup at h h' he
  have hx : t * n + j = t' * n + j' := by omega
  have ht : t = t' := by
    have := congrArg (· / n) hx
    simpa [Nat.mul_comm _ n, Nat.mul_add_div (by omega : 0 < n), Nat.div_eq_of_lt hj,
      Nat.div_eq_of_lt hj'] using this
  subst ht
  omega

variable {mode rasterStream enableSwXfb ws primCountInWave msgsOf} {primCountInSubgroup : Nat}

theorem gsPhaseStores_mem (hfit : GsFits mode ws primCountInWave msgsOf primCountInSubgroup)
    {st : Nat × Nat} (hst : st ∈ gsPhaseStores mode rasterStream enableSwXfb ws primCountInWave msgsOf) :
    ∃ t j p, ∃ s : Fin MaxGsStreams, t < NggMaxThreadsPerSubgroup ∧ gsRuns ws primCountInWave t ∧
      startsPrimitive mode.outputPrimitive.verticesPerPrimitive (stripsOf s (msgsOf t)).lengths j p ∧
      j + mode.outputPrimitive.verticesPerPrimitive ≤ mode.outputVertices ∧
      st = (t * mode.outputVertices + j + NggMaxThreadsPerSubgroup * s, stripWinding mode.outputPrimitive p) := by
  obtain ⟨t, ht, hmem⟩ := List.mem_flatMap.mp hst
  rw [List.mem_filter, List.mem_range] at ht
  obtain ⟨d, hd, rfl⟩ := List.mem_map.mp hmem
  obtain ⟨j, p, hsp, hv, hw⟩ := mem_runGs mode rasterStream enableSwXfb t _ hd
  have hb := startsPrimitive_bound hsp
  rw [stripsOf_sum] at hb
  refine ⟨t, j, p, d.streamId, ht.1, ht.2, hsp, le_trans hb (hfit.emits t ht.1 ht.2 d.streamId), ?_⟩
  rw [PrimDataStore.offset, hv, hw]

theorem gsPhaseStores_at (hfit : GsFits mode ws primCountInWave msgsOf primCountInSubgroup)
    {t j : Nat} {s : Fin MaxGsStreams} (ht : t < NggMaxThreadsPerSubgroup)
    (hrun : gsRuns ws primCountInWave t) (hj : j < mode.outputVertices) {st : Nat × Nat}
    (hst : st ∈ gsPhaseStores mode rasterStream enableSwXfb ws primCountInWave msgsOf)
    (haddr : st.1 = t * mode.outputVertices + j + NggMaxThreadsPerSubgroup * s) :
    ∃ p, startsPrimitive mode.outputPrimitive.verticesPerPrimitive (stripsOf s (msgsOf t)).lengths j p ∧
      st.2 = stripWinding mode.outputPrimitive p := by
  obtain ⟨t', j', p, s', ht', hrun', hsp, hb, rfl⟩ := gsPhaseStores_mem hfit hst
  have hk := mode.outputPrimitive.verticesPerPrimitive_pos
  obtain ⟨hs, rfl, rfl⟩ := slot_inj (by omega) hj (le_trans (hfit.cover t' ht' hrun') hfit.region)
    (le_trans (hfit.cover t ht hrun) hfit.region) haddr
  rw [← Fin.ext hs]
  exact ⟨p, hsp, rfl⟩

theorem gsPhaseLds_of_starts (hfit : GsFits mode ws primCountInWave msgsOf primCountInSubgroup)
    (lds : Nat → Nat) (initOrder : List (Nat × Nat)) {gsOrder : List (Nat × Nat)}
    (hgs : gsOrder.Perm (gsPhaseStores mode rasterStream enableSwXfb ws primCountInWave msgsOf))
    {s : Fin MaxGsStreams} (hs : isHandledStream rasterStream enableSwXfb s)
    {t j p : Nat} (ht : t < NggMaxThreadsPerSubgroup) (hrun : gsRuns ws primCountInWave t)
    (hj : j < mode.outputVertices)
    (hp : startsPrimitive mode.outputPrimitive.verticesPerPrimitive (stripsOf s (msgsOf t)).lengths j p) :
    gsPhaseLds lds initOrder gsOrder (t * mode.outputVertices + j + NggMaxThreadsPerSubgroup * s) =
      stripWinding mode.outputPrimitive p := by
  apply runStores_of_agree
  · refine ⟨_, hgs.mem_iff.mpr (List.mem_flatMap.mpr ⟨t, ?_, List.mem_map_of_mem _
      (mem_runGs_of_starts mode rasterStream enableSwXfb t (msgsOf t) hs hp)⟩), rfl⟩
    exact List.mem_filter.mpr ⟨List.mem_range.mpr ht, hrun⟩
  · intro st hst he
    obtain ⟨p', hp', hw⟩ := gsPhaseStores_at hfit ht hrun hj (hgs.mem_iff.mp hst) he
    rw [hw, startsPrimitive_unique hp' hp]

theorem gsPhaseLds_of_fresh (lds : Nat → Nat) {streamXfbBuffers : Fin MaxGsStreams → Nat}
    {initOrder gsOrder : List (Nat × Nat)}
    (hinit : initOrder.Perm (initOutPrimData enableSwXfb streamXfbBuffers rasterStream primCountInSubgroup))
    {s : Fin MaxGsStreams} (hs : isStreamActive enableSwXfb streamXfbBuffers rasterStream s)
    {n : Nat} (hn : n < primCountInSubgroup)
    (hfresh : ∀ st ∈ gsOrder, st.1 ≠ n + NggMaxThreadsPerSubgroup * s) :
    gsPhaseLds lds initOrder gsOrder (n + NggMaxThreadsPerSubgroup * s) = NullPrim := by
  rw [gsPhaseLds, runStores_of_fresh _ hfresh]
  apply runStores_of_agree
  · exact ⟨_, hinit.mem_iff.mpr (List.mem_flatMap.mpr ⟨n, List.mem_range.mpr hn,
      List.mem_map_of_mem _ (List.mem_filter.mpr ⟨List.mem_finRange s, hs⟩)⟩), rfl⟩
  · intro st hst _
    obtain ⟨t, -, hmem⟩ := List.mem_flatMap.mp (hinit.mem_iff.mp hst)
    obtain ⟨i, -, rfl⟩ := List.mem_map.mp hmem
    rfl

theorem gsPhaseLds_of_not_starts (hfit : GsFits mode ws primCountInWave msgsOf primCountInSubgroup)
    (lds : Nat → Nat) {streamXfbBuffers : Fin MaxGsStreams → Nat} {initOrder gsOrder : List (Nat × Nat)}
    (hinit : initOrder.Perm (initOutPrimData enableSwXfb streamXfbBuffers rasterStream primCountInSubgroup))
    (hgs : gsOrder.Perm (gsPhaseStores mode rasterStream enableSwXfb ws primCountInWave msgsOf))
    {s : Fin MaxGsStreams} (hs : isStreamActive enableSwXfb streamXfbBuffers rasterStream s)
    {t j : Nat} (ht : t < NggMaxThreadsPerSubgroup) (hrun : gsRuns ws primCountInWave t)
    (hj : j < mode.outputVertices)
    (hp : ∀ p, startsPrimitive mode.outputPrimitive.verticesPerPrimitive (stripsOf s (msgsOf t)).lengths j p = false) :
    gsPhaseLds lds initOrder gsOrder (t * mode.outputVertices + j + NggMaxThreadsPerSubgroup * s) =
      NullPrim := by
  have hc := hfit.cover t ht hrun
  rw [Nat.succ_mul] at hc
  refine gsPhaseLds_of_fresh lds hinit hs (by omega) fun st hst he => ?_
  obtain ⟨p, hp', -⟩ := gsPhaseStores_at hfit ht hrun hj (hgs.mem_iff.mp hst) he
  simp [hp] at hp'

theorem gsPhaseLds_valid_fits (hfit : GsFits mode ws primCountInWave msgsOf primCountInSubgroup)
    (lds : Nat → Nat) {streamXfbBuffers : Fin MaxGsStreams → Nat} {initOrder gsOrder : List (Nat × Nat)}
    (hinit : initOrder.Perm (initOutPrimData enableSwXfb streamXfbBuffers rasterStream primCountInSubgroup))
    (hgs : gsOrder.Perm (gsPhaseStores mode rasterStream enableSwXfb ws primCountInWave msgsOf))
    {s : Fin MaxGsStreams} (hs : isStreamActive enableSwXfb streamXfbBuffers rasterStream s)
    {n : Nat} (hn : n < primCountInSubgroup)
    (hvalid : gsPhaseLds lds initOrder gsOrder (n + NggMaxThreadsPerSubgroup * s) ≠ NullPrim) :
    n + mode.outputPrimitive.verticesPerPrimitive ≤ primCountInSubgroup := by
  by_cases hstore : ∃ st ∈ gsOrder, st.1 = n + NggMaxThreadsPerSubgroup * s
  · obtain ⟨st, hst, he⟩ := hstore
    obtain ⟨t, j, p, s', ht, hrun, -, hb, rfl⟩ := gsPhaseStores_mem hfit (hgs.mem_iff.mp hst)
    have hc := hfit.cover t ht hrun
    have hreg := hfit.region
    rw [Nat.succ_mul] at hc
    unfold NggMaxThreadsPerSubgroup at he hreg
    omega
  · exact absurd (gsPhaseLds_of_fresh lds hinit hs hn fun st hst he => hstore ⟨st, hst, he⟩) hvalid

/-- `exportPrimitiveWithGs`: a valid entry becomes the connectivity word of the
primitive that starts at `startingVertexIndex`, with the last two vertices of a
triangle swapped when the entry records a winding; a null entry is exported as
it is. -/
def exportPrimitiveWithGs (mode : GeometryShaderMode) (primData startingVertexIndex : Nat) : Nat :=
  if primData ≠ NullPrim then
    match mode.outputPrimitive with
    | .points => startingVertexIndex
    | .lineStrip => (startingVertexIndex + 1) <<< 10 ||| startingVertexIndex
    | .triangleStrip =>
      if primData ≠ 0 then
        primitiveData startingVertexIndex (startingVertexIndex + 2) (startingVertexIndex + 1)
      else primitiveData startingVertexIndex (startingVertexIndex + 1) (startingVertexIndex + 2)
  else primData

def connectivityVertices (k primData : Nat) : List Nat :=
  [(vertexIndices primData).1, (vertexIndices primData).2.1, (vertexIndices primData).2.2].take k

def stripPrimitive (prim : OutputPrimitives) (S p : Nat) : List Nat :=
  match prim with
  | .points => [S]
  | .lineStrip => [S, S + 1]
  | .triangleStrip => if p % 2 = 0 then [S, S + 1, S + 2] else [S, S + 2, S + 1]

theorem exportPrimitiveWithGs_null (mode : GeometryShaderMode) (S : Nat) :
    exportPrimitiveWithGs mode NullPrim S = NullPrim := by
  simp [exportPrimitiveWithGs]

theorem exportPrimitiveWithGs_strip (mode : GeometryShaderMode) (p : Nat) {S : Nat}
    (hS : S + 2 < 2 ^ 9) :
    isNullPrim (exportPrimitiveWithGs mode (stripWinding mode.outputPrimitive p) S) = false ∧
      connectivityVertices mode.outputPrimitive.verticesPerPrimitive
        (exportPrimitiveWithGs mode (stripWinding mode.outputPrimitive p) S) =
        stripPrimitive mode.outputPrimitive S p := by
  have h0 : S < 2 ^ 9 := by omega
  have h1 : S + 1 < 2 ^ 9 := by omega
  have h2 : S + 2 < 2 ^ 9 := hS
  obtain ⟨prim, outputVertices⟩ := mode
  cases prim with
  | points =>
    simp [exportPrimitiveWithGs, stripWinding, NullPrim, connectivityVertices, vertexIndices,
      stripPrimitive, OutputPrimitives.verticesPerPrimitive, isNullPrim,
      Nat.mod_eq_of_lt (by omega : S < 512), Nat.testBit_lt_two_pow (by omega : S < 2 ^ 31)]
  | lineStrip =>
    have hline : (S + 1) <<< 10 ||| S = primitiveData S (S + 1) 0 := by simp [primitiveData]
    simp [exportPrimitiveWithGs, stripWinding, NullPrim, hline, connectivityVertices, stripPrimitive,
      OutputPrimitives.verticesPerPrimitive, isNullPrim_primitiveData h0 h1 (by omega : 0 < 2 ^ 9),
      vertexIndices_primitiveData h0 h1 (by omega : 0 < 2 ^ 9)]
  | triangleStrip =>
    rcases Nat.mod_two_eq_zero_or_one p with hp | hp <;>
      simp [exportPrimitiveWithGs, stripWinding, NullPrim, hp, connectivityVertices, stripPrimitive,
        OutputPrimitives.verticesPerPrimitive, isNullPrim_primitiveData h0 h1 h2,
        isNullPrim_primitiveData h0 h2 h1, vertexIndices_primitiveData h0 h1 h2,
        vertexIndices_primitiveData h0 h2 h1]

section Decomposition

variable {mode : GeometryShaderMode} {rasterStream : Fin MaxGsStreams} {enableSwXfb : Bool}
  {ws : WaveSize} {primCountInWave : Nat → Nat} {msgsOf : Nat → List GsMessage}
  {primCountInSubgroup : Nat}

/-- After the GS phase, the entry of vertex `j` of invocation `t` on an active
stream is not `NullPrim` exactly when an API primitive starts there. It then
holds the primitive's winding, and `exportPrimitiveWithGs` exports the
primitive's vertices in the API's order from any starting index; otherwise the
export is `NullPrim`. -/
theorem gsPhase_strip_decomposition (hfit : GsFits mode ws primCountInWave msgsOf primCountInSubgroup)
    (lds : Nat → Nat) {streamXfbBuffers : Fin MaxGsStreams → Nat} {initOrder gsOrder : List (Nat × Nat)}
    (hinit : initOrder.Perm (initOutPrimData enableSwXfb streamXfbBuffers rasterStream primCountInSubgroup))
    (hgs : gsOrder.Perm (gsPhaseStores mode rasterStream enableSwXfb ws primCountInWave msgsOf))
    {s : Fin MaxGsStreams} (hs : isStreamActive enableSwXfb streamXfbBuffers rasterStream s)
    {t j : Nat} (ht : t < NggMaxThreadsPerSubgroup) (hrun : gsRuns ws primCountInWave t)
    (hj : j < mode.outputVertices) :
    (gsPhaseLds lds initOrder gsOrder (t * mode.outputVertices + j + NggMaxThreadsPerSubgroup * s) ≠
        NullPrim ↔
      ∃ p, startsPrimitive mode.outputPrimitive.verticesPerPrimitive (stripsOf s (msgsOf t)).lengths j p) ∧
    (∀ p, startsPrimitive mode.outputPrimitive.verticesPerPrimitive (stripsOf s (msgsOf t)).lengths j p →
      gsPhaseLds lds initOrder gsOrder (t * mode.outputVertices + j + NggMaxThreadsPerSubgroup * s) =
        stripWinding mode.outputPrimitive p ∧
      ∀ S, S + 2 < 2 ^ 9 →
        isNullPrim (exportPrimitiveWithGs mode (gsPhaseLds lds initOrder gsOrder
          (t * mode.outputVertices + j + NggMaxThreadsPerSubgroup * s)) S) = false ∧
        connectivityVertices mode.outputPrimitive.verticesPerPrimitive (exportPrimitiveWithGs mode
          (gsPhaseLds lds initOrder gsOrder (t * mode.outputVertices + j + NggMaxThreadsPerSubgroup * s)) S) =
          stripPrimitive mode.outputPrimitive S p) ∧
    ((∀ p, startsPrimitive mode.outputPrimitive.verticesPerPrimitive (stripsOf s (msgsOf t)).lengths j p =
        false) →
      ∀ S, exportPrimitiveWithGs mode (gsPhaseLds lds initOrder gsOrder
        (t * mode.outputVertices + j + NggMaxThreadsPerSubgroup * s)) S = NullPrim) := by
  have hstarts := fun p (hp : startsPrimitive mode.outputPrimitive.verticesPerPrimitive
      (stripsOf s (msgsOf t)).lengths j p) =>
    gsPhaseLds_of_starts hfit lds initOrder hgs (isHandledStream_of_active hs) ht hrun hj hp
  have hnull := gsPhaseLds_of_not_starts hfit lds hinit hgs hs ht hrun hj
  refine ⟨⟨fun hne => ?_, fun ⟨p, hp⟩ => ?_⟩, fun p hp => ⟨hstarts p hp, fun S hS => ?_⟩, fun hp S => ?_⟩
  · by_contra hno
    exact hne (hnull fun p => by simpa using fun h => hno ⟨p, h⟩)
  · rw [hstarts p hp]
    unfold stripWinding NullPrim
    split_ifs <;> omega
  · rw [hstarts p hp]
    exact exportPrimitiveWithGs_strip mode p hS
  · rw [hnull hp, exportPrimitiveWithGs_null]

end Decomposition

theorem gsPhase_strip_decomposition_triangle :
    GsFits ⟨.triangleStrip, 3⟩ WaveSize.wave32 (fun w => if w = 0 then 1 else 0)
        (fun _ => [.emit 0, .emit 0, .emit 0]) 3 ∧
      (gsPhaseLds (fun _ => 0) (initOutPrimData false (fun _ => 0) 0 3)
          (gsPhaseStores ⟨.triangleStrip, 3⟩ 0 false WaveSize.wave32 (fun w => if w = 0 then 1 else 0)
            (fun _ => [.emit 0, .emit 0, .emit 0])) (0 * 3 + 0 + NggMaxThreadsPerSubgroup * (0 : Fin MaxGsStreams)) ≠
          NullPrim ↔
        ∃ p, startsPrimitive 3 (stripsOf 0 [.emit 0, .emit 0, .emit 0]).lengths 0 p) := by
  have hfit : GsFits ⟨.triangleStrip, 3⟩ WaveSize.wave32 (fun w => if w = 0 then 1 else 0)
      (fun _ => [.emit 0, .emit 0, .emit 0]) 3 :=
    ⟨fun t _ h => by
      simp only [gsRuns, WaveSize.wave32, decide_eq_true_eq] at h
      show (t + 1) * 3 ≤ 3
      split_ifs at h <;> omega,
     by decide, fun _ _ _ _ => List.count_le_length _ _⟩
  exact ⟨hfit, (gsPhase_strip_decomposition hfit (fun _ => 0)
    (List.Perm.refl (initOutPrimData false (fun _ => 0) 0 3))
    (List.Perm.refl (gsPhaseStores ⟨.triangleStrip, 3⟩ 0 false WaveSize.wave32
      (fun w => if w = 0 then 1 else 0) (fun _ => [.emit 0, .emit 0, .emit 0])))
    (show isStreamActive false (fun _ => 0) 0 (0 : Fin MaxGsStreams) from rfl)
    (show 0 < NggMaxThreadsPerSubgroup by decide) (by decide) (show 0 < 3 by decide)).1⟩

/-- With SW transform feedback, a stream that feeds no buffer is handled but
not initialised: its entries keep whatever the LDS held, so an entry where no
primitive starts need not be `NullPrim`. -/
theorem gsPhase_inactive_stream_uninitialized :
    GsFits ⟨.points, 1⟩ WaveSize.wave32 (fun w => if w = 0 then 1 else 0) (fun _ => []) 1 ∧
      isHandledStream 0 true 1 = true ∧ isStreamActive true (fun _ => 0) 0 1 = false ∧
      gsPhaseLds (fun _ => 0) (initOutPrimData true (fun _ => 0) 0 1)
          (gsPhaseStores ⟨.points, 1⟩ 0 true WaveSize.wave32 (fun w => if w = 0 then 1 else 0) (fun _ => []))
          (0 * 1 + 0 + NggMaxThreadsPerSubgroup * (1 : Fin MaxGsStreams)) ≠ NullPrim ∧
      ∀ p, startsPrimitive 1 (stripsOf 1 []).lengths 0 p = false := by
  refine ⟨⟨fun t _ h => ?_, by decide, fun _ _ _ _ => Nat.zero_le _⟩, rfl, rfl, ?_, ?_⟩
  · simp only [gsRuns, WaveSize.wave32, decide_eq_true_eq] at h
    show (t + 1) * 1 ≤ 1
    split_ifs at h <;> omega
  · decide
  · intro p
    rfl

end NggPrimShader.Gs.PrimData
