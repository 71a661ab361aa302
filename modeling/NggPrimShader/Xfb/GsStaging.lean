import NggPrimShader.Xfb.Export
import NggPrimShader.Gs.PrimData
import NggPrimShader.Wave.Compaction

/-! The transform-feedback path of `processSwXfbWithGs`. After the GS phase,
every thread below `primCountInSubgroup` checks its primitive-data entry on each
active stream. The drawn threads are compacted per stream through
`PrimitiveCounts` and `PrimitiveIndexMap`. Lane `c` of
`.exportXfbOutputInStream[s]` then reads the vertices of the `c`-th drawn
primitive from the stream's GS-VS ring region. The drawn threads are the API's
strip primitives of the stream in (invocation, emission) order, so lane `c`
reads the `c`-th of them. -/
namespace NggPrimShader.Xfb.GsStaging

open NggPrimShader.Basic NggPrimShader.Gs.EmitCut NggPrimShader.Gs.PrimData
  NggPrimShader.Wave.Compaction NggPrimShader.Xfb.Reservation NggPrimShader.Xfb.Export

section Api

variable (mode : GeometryShaderMode) (ws : WaveSize) (primCountInWave : Nat → Nat)
  (msgsOf : Nat → List GsMessage)

/-- The API primitives of stream `s` in (GS invocation, emission) order. Each is
given as its invocation, its first vertex among the invocation's vertices of
the stream, and its position in its strip. -/
def apiPrimitivesOf (s : StreamId) : List (Nat × Nat × Nat) :=
  ((List.range NggMaxThreadsPerSubgroup).filter (gsRuns ws primCountInWave)).flatMap fun t =>
    (stripPrims mode.outputPrimitive.verticesPerPrimitive 0 (stripsOf s (msgsOf t)).lengths).map fun jp => (t, jp)

def primSlot (x : Nat × Nat × Nat) : Nat := x.1 * mode.outputVertices + x.2.1

@[simp] theorem primSlot_mk (t j p : Nat) : primSlot mode (t, j, p) = t * mode.outputVertices + j := rfl

variable {mode ws primCountInWave msgsOf}

theorem mem_apiPrimitivesOf {s : StreamId} {x : Nat × Nat × Nat} :
    x ∈ apiPrimitivesOf mode ws primCountInWave msgsOf s ↔
      x.1 < NggMaxThreadsPerSubgroup ∧ gsRuns ws primCountInWave x.1 ∧
        startsPrimitive mode.outputPrimitive.verticesPerPrimitive (stripsOf s (msgsOf x.1)).lengths x.2.1 x.2.2 := by
  obtain ⟨t, j, p⟩ := x
  simp only [apiPrimitivesOf, List.mem_flatMap, List.mem_filter, List.mem_range, List.mem_map,
    mem_stripPrims mode.outputPrimitive.verticesPerPrimitive_pos, Nat.sub_zero, Prod.mk.injEq]
  constructor
  · rintro ⟨t, ⟨ht, hrun⟩, ⟨j, p⟩, ⟨-, hsp⟩, rfl, rfl, rfl⟩
    exact ⟨ht, hrun, hsp⟩
  · rintro ⟨ht, hrun, hsp⟩
    exact ⟨t, ⟨ht, hrun⟩, (j, p), ⟨Nat.zero_le _, hsp⟩, rfl, rfl⟩

theorem startsPrimitive_add_le_count {msgs : List GsMessage} {s : StreamId} {j p : Nat}
    (h : startsPrimitive mode.outputPrimitive.verticesPerPrimitive (stripsOf s msgs).lengths j p) :
    j + mode.outputPrimitive.verticesPerPrimitive ≤ msgs.count (.emit s) :=
  stripsOf_sum s msgs ▸ startsPrimitive_bound h

theorem stripPrims_pairwise {k : Nat} (hk : 0 < k) : ∀ (first : Nat) (ls : List Nat),
    (stripPrims k first ls).Pairwise fun a b => a.1 < b.1
  | _, [] => List.Pairwise.nil
  | first, n :: ns => by
    rw [stripPrims, List.pairwise_append, List.pairwise_map]
    refine ⟨(List.pairwise_lt_range _).imp fun h => by simpa using h, stripPrims_pairwise hk _ ns, ?_⟩
    intro a ha b hb
    obtain ⟨p, hp, rfl⟩ := List.mem_map.mp ha
    have := ((mem_stripPrims hk _ ns b.1 b.2).mp hb).1
    rw [List.mem_range] at hp
    simp only
    omega

theorem primSlots_sorted {primCountInSubgroup : Nat}
    (hfit : GsFits mode ws primCountInWave msgsOf primCountInSubgroup) (s : StreamId) :
    ((apiPrimitivesOf mode ws primCountInWave msgsOf s).map (primSlot mode)).Sorted (· < ·) := by
  have hk := mode.outputPrimitive.verticesPerPrimitive_pos
  rw [List.Sorted, List.pairwise_map, apiPrimitivesOf, List.pairwise_flatMap]
  refine ⟨fun t _ => List.pairwise_map.mpr ((stripPrims_pairwise hk 0 _).imp fun h => ?_),
    ((List.pairwise_lt_range _).filter _).imp_of_mem fun ht _ htt' => ?_⟩
  · simp only [primSlot]
    omega
  · intro x hx y hy
    obtain ⟨jp, hjp, rfl⟩ := List.mem_map.mp hx
    obtain ⟨jp', -, rfl⟩ := List.mem_map.mp hy
    obtain ⟨ht, hrun⟩ := List.mem_filter.mp ht
    have hb := startsPrimitive_add_le_count ((mem_stripPrims hk 0 _ jp.1 jp.2).mp hjp).2
    have := hfit.emits _ (List.mem_range.mp ht) hrun s
    have hmul := Nat.mul_le_mul_right mode.outputVertices htt'
    simp only [primSlot, Nat.succ_mul] at hmul ⊢
    omega

end Api

/-- `drawFlag[s]` of `.checkOutPrimDrawFlag`: a thread below
`primCountInSubgroup` draws on stream `s` when its entry is not `NullPrim`, and
the others do not. -/
def drawFlag (primData : Nat → Nat) (primCountInSubgroup : Nat) (s : StreamId) (t : Nat) : Bool :=
  decide (t < primCountInSubgroup) && primData (t + NggMaxThreadsPerSubgroup * s) != NullPrim

section Order

variable {mode : GeometryShaderMode} {rasterStream : StreamId} {enableSwXfb : Bool} {ws : WaveSize}
  {primCountInWave : Nat → Nat} {msgsOf : Nat → List GsMessage} {primCountInSubgroup : Nat}
  (hfit : GsFits mode ws primCountInWave msgsOf primCountInSubgroup) (lds : Nat → Nat)
  {streamXfbBuffers : StreamId → Nat} {initOrder gsOrder : List (Nat × Nat)}
  (hinit : initOrder.Perm (initOutPrimData enableSwXfb streamXfbBuffers rasterStream primCountInSubgroup))
  (hgs : gsOrder.Perm (gsPhaseStores mode rasterStream enableSwXfb ws primCountInWave msgsOf))
  {s : StreamId} (hs : isStreamActive enableSwXfb streamXfbBuffers rasterStream s)
include hfit hinit hgs hs

theorem drawFlag_iff {u : Nat} :
    drawFlag (gsPhaseLds lds initOrder gsOrder) primCountInSubgroup s u ↔
      ∃ x ∈ apiPrimitivesOf mode ws primCountInWave msgsOf s, primSlot mode x = u := by
  have hk := mode.outputPrimitive.verticesPerPrimitive_pos
  have hreg := hfit.region
  simp only [drawFlag, Bool.and_eq_true, decide_eq_true_eq, bne_iff_ne, ne_eq]
  constructor
  · rintro ⟨hpc, hnull⟩
    obtain ⟨st, hst, he⟩ : ∃ st ∈ gsOrder, st.1 = u + NggMaxThreadsPerSubgroup * s := by
      by_contra hno
      exact hnull (gsPhaseLds_of_fresh lds hinit hs hpc fun st hst he => hno ⟨st, hst, he⟩)
    obtain ⟨t, j, p, s', ht, hrun, hsp, hb, rfl⟩ := gsPhaseStores_mem hfit (hgs.mem_iff.mp hst)
    have hc := hfit.cover t ht hrun
    rw [Nat.succ_mul] at hc
    unfold NggMaxThreadsPerSubgroup at he hreg
    have hs' : s = s' := Fin.ext (by simp only at he; omega)
    subst hs'
    exact ⟨(t, j, p), mem_apiPrimitivesOf.mpr ⟨ht, hrun, hsp⟩, by simp only [primSlot] at he ⊢; omega⟩
  · rintro ⟨⟨t, j, p⟩, hx, rfl⟩
    simp only [mem_apiPrimitivesOf] at hx
    obtain ⟨ht, hrun, hsp⟩ := hx
    have hb := startsPrimitive_add_le_count hsp
    have hc := hfit.cover t ht hrun
    have := hfit.emits t ht hrun s
    rw [Nat.succ_mul] at hc
    refine ⟨by simp only [primSlot]; omega, ?_⟩
    rw [primSlot, gsPhaseLds_of_starts hfit lds initOrder hgs (isHandledStream_of_active hs) ht hrun
      (by omega) hsp]
    have := stripWinding_le_one mode.outputPrimitive p
    unfold NullPrim
    omega

theorem filter_drawFlag {n : Nat} (hn : primCountInSubgroup ≤ n) :
    (List.range n).filter (drawFlag (gsPhaseLds lds initOrder gsOrder) primCountInSubgroup s) =
      (apiPrimitivesOf mode ws primCountInWave msgsOf s).map (primSlot mode) := by
  have hsorted := primSlots_sorted hfit s
  have hlhs : ((List.range n).filter (drawFlag (gsPhaseLds lds initOrder gsOrder) primCountInSubgroup s)).Sorted
      (· < ·) := (List.pairwise_lt_range n).filter _
  refine List.eq_of_perm_of_sorted ((List.perm_ext_iff_of_nodup hlhs.nodup hsorted.nodup).mpr fun u => ?_)
    hlhs hsorted
  rw [List.mem_filter, List.mem_range, List.mem_map, drawFlag_iff hfit lds hinit hgs hs]
  constructor
  · exact fun h => h.2
  · intro h
    refine ⟨?_, h⟩
    have hu := (drawFlag_iff hfit lds hinit hgs hs).mpr h
    simp only [drawFlag, Bool.and_eq_true, decide_eq_true_eq] at hu
    omega

end Order

def countsBase (s : StreamId) : Nat := (NggMaxWavesPerSubgroup + 1) * s

section Compaction

variable (streams : List StreamId) (ws : WaveSize) (flag : StreamId → Nat → Bool) (m : Nat)

def initOutPrimCount (lds : Nat → Nat) : Nat → Nat :=
  streams.foldr (fun s => initCounts (countsBase s) ws m) lds

def accumOutPrimCount : List AtomicAdd :=
  streams.flatMap fun s => countOps (countsBase s) ws (flag s) m

/-- `.compactOutPrimIdInStream[s]` of every active stream: each drawn thread
writes its id at its compacted index in the stream's part of
`PrimitiveIndexMap`. -/
def compactOutPrimIdStores (counts : Nat → Nat) : List (Nat × Nat) :=
  streams.flatMap fun s => indexMapStores (flag s)
    (fun t => compactedIndex (countsBase s) ws (flag s) counts t + NggMaxThreadsPerSubgroup * s) (m * ws.val)

variable {streams ws flag m}

theorem countsBase_inj {s s' : StreamId} {k k' : Nat} (hk : k ≤ ws.waveCountInSubgroup)
    (hk' : k' ≤ ws.waveCountInSubgroup) (h : countsBase s + k = countsBase s' + k') : s = s' := by
  have := ws.waveCount_le
  unfold countsBase NggMaxWavesPerSubgroup at *
  exact Fin.ext (by omega)

theorem initOutPrimCount_slot (hm1 : 1 ≤ m) (lds : Nat → Nat) {s : StreamId} (hs : s ∈ streams) {k : Nat}
    (hk : k ≤ ws.waveCountInSubgroup) : initOutPrimCount streams ws m lds (countsBase s + k) = 0 := by
  have := ws.waveCount_lt_val
  have := Nat.le_mul_of_pos_left ws.val hm1
  induction streams with
  | nil => cases hs
  | cons s' rest ih =>
    rw [initOutPrimCount, List.foldr_cons, ← initOutPrimCount, initCounts]
    split_ifs with h
    · rfl
    · refine ih ((List.mem_cons.mp hs).resolve_left fun hss => h ?_)
      subst hss
      omega

theorem addedTo_countOps_of_ne {s s' : StreamId} (hne : s' ≠ s) {k : Nat} (hk : k ≤ ws.waveCountInSubgroup)
    (f : Nat → Bool) : addedTo (countOps (countsBase s') ws f m) (countsBase s + k) = 0 :=
  addedTo_eq_zero fun op hop he => by
    have := mem_countOps (countsBase s') ws f hop
    exact hne (countsBase_inj (k := op.slot - countsBase s') (by omega) hk (by omega))

theorem addedTo_accumOutPrimCount (hnd : streams.Nodup) {s : StreamId} {k : Nat}
    (hk : k ≤ ws.waveCountInSubgroup) :
    addedTo (accumOutPrimCount streams ws flag m) (countsBase s + k) =
      if s ∈ streams then ∑ w ∈ Finset.range (min k m), countInWave ws (flag s) w else 0 := by
  induction streams with
  | nil => rfl
  | cons s' rest ih =>
    rw [accumOutPrimCount, List.flatMap_cons, addedTo_append, ← accumOutPrimCount,
      ih (List.nodup_cons.mp hnd).2]
    by_cases hs : s' = s
    · subst hs
      rw [addedTo_countOps _ _ _ (by omega : k ≤ _), if_neg (List.nodup_cons.mp hnd).1,
        if_pos (List.mem_cons_self _ _), Nat.add_zero]
    · rw [addedTo_countOps_of_ne hs hk, Nat.zero_add]
      simp only [List.mem_cons, Ne.symm hs, false_or]

theorem primCounts_slot (hm1 : 1 ≤ m) (hnd : streams.Nodup) (lds : Nat → Nat) {schedule : List AtomicAdd}
    (hsched : schedule.Perm (accumOutPrimCount streams ws flag m)) {s : StreamId} (hs : s ∈ streams) {k : Nat}
    (hk : k ≤ ws.waveCountInSubgroup) :
    runAtomics (initOutPrimCount streams ws m lds) schedule (countsBase s + k) =
      ∑ w ∈ Finset.range (min k m), countInWave ws (flag s) w := by
  rw [runAtomics_perm _ hsched, runAtomics_eq, initOutPrimCount_slot hm1 lds hs hk,
    addedTo_accumOutPrimCount hnd hk, if_pos hs, Nat.zero_add]

theorem length_filter_range (p : Nat → Bool) (n : Nat) :
    ((List.range n).filter p).length = Nat.count (fun u => p u) n := by
  induction n with
  | zero => rfl
  | succ n ih =>
    rw [List.range_succ, List.filter_append, List.length_append, ih, Nat.count_succ]
    by_cases h : p n <;> simp [h]

theorem count_getElem_filter_range (p : Nat → Bool) : ∀ (n c : Nat) (h : c < ((List.range n).filter p).length),
    Nat.count (fun u => p u) ((List.range n).filter p)[c] = c
  | 0, _, h => absurd h (by simp)
  | n + 1, c, h => by
    have hn := length_filter_range p n
    simp only [List.range_succ, List.filter_append] at h ⊢
    rcases Nat.lt_or_ge c ((List.range n).filter p).length with hc | hc
    · rw [List.getElem_append_left hc]
      exact count_getElem_filter_range p n c hc
    · by_cases hp : p n
      · simp only [List.filter_cons, hp, if_true, List.filter_nil, List.length_append, List.length_singleton] at h
        rw [List.getElem_append_right hc]
        simp only [List.filter_cons, hp, if_true, List.filter_nil, List.getElem_singleton]
        omega
      · simp [hp] at h
        omega

theorem runStores_compactOutPrimIdStores (hm : m ≤ ws.waveCountInSubgroup) {counts : Nat → Nat}
    (hcounts : ∀ s ∈ streams, ∀ k ≤ ws.waveCountInSubgroup,
      counts (countsBase s + k) = ∑ w ∈ Finset.range (min k m), countInWave ws (flag s) w)
    (mapLds : Nat → Nat) {order : List (Nat × Nat)}
    (horder : order.Perm (compactOutPrimIdStores streams ws flag m counts)) {s : StreamId} (hs : s ∈ streams)
    {c : Nat} (hc : c < ((List.range (m * ws.val)).filter (flag s)).length) :
    runStores mapLds order (c + NggMaxThreadsPerSubgroup * s) = ((List.range (m * ws.val)).filter (flag s))[c] := by
  have hNMT : m * ws.val ≤ NggMaxThreadsPerSubgroup :=
    ws.waveCount_mul ▸ Nat.mul_le_mul_right ws.val hm
  have hmem := List.getElem_mem hc
  obtain ⟨hu, hf⟩ := List.mem_filter.mp hmem
  rw [List.mem_range] at hu
  have hrank := count_getElem_filter_range (flag s) _ c hc
  have hidx : ∀ s' ∈ streams, ∀ t < m * ws.val,
      compactedIndex (countsBase s') ws (flag s') counts t = Nat.count (fun u => flag s' u) t :=
    fun s' hs' t ht => compactedIndex_eq hm (hcounts s' hs') ht
  apply runStores_of_agree
  · refine ⟨_, horder.mem_iff.mpr (List.mem_flatMap.mpr ⟨s, hs, List.mem_map.mpr
      ⟨_, List.mem_filter.mpr ⟨List.mem_range.mpr hu, hf⟩, rfl⟩⟩), ?_⟩
    simp only [hidx s hs _ hu, hrank]
  · intro st hst he
    obtain ⟨s', hs', hmem'⟩ := List.mem_flatMap.mp (horder.mem_iff.mp hst)
    obtain ⟨u, hu', rfl⟩ := List.mem_map.mp hmem'
    obtain ⟨hu', hf'⟩ := List.mem_filter.mp hu'
    rw [List.mem_range] at hu'
    have hle := Nat.count_le (fun v => flag s' v = true) (n := u)
    have hlen : c < m * ws.val := by
      rw [length_filter_range] at hc
      exact lt_of_lt_of_le hc (Nat.count_le _)
    simp only [hidx s' hs' u hu'] at he
    unfold NggMaxThreadsPerSubgroup at he hNMT
    obtain rfl : s' = s := Fin.ext (by omega)
    exact @Nat.count_injective (fun v => flag s' v = true) _ _ _ hf' hf (by dsimp only; omega)

end Compaction

/-- `vertexIndices[0 .. outVertsPerPrim-1]` of `.exportXfbOutputInStream[N]` for
the primitive whose first vertex is `vertexIndex`: the next vertices in order,
with the last two of a triangle swapped when its entry `primData` records a
winding. -/
def xfbVertexIndicesWithGs (outVertsPerPrim vertexIndex primData : Nat) : List Nat :=
  if outVertsPerPrim > 2 then
    if primData ≠ 0 then [vertexIndex, vertexIndex + 2, vertexIndex + 1]
    else [vertexIndex, vertexIndex + 1, vertexIndex + 2]
  else [vertexIndex, vertexIndex + 1].take outVertsPerPrim

theorem xfbVertexIndicesWithGs_stripWinding (prim : OutputPrimitives) (S p : Nat) :
    xfbVertexIndicesWithGs prim.verticesPerPrimitive S (stripWinding prim p) = stripPrimitive prim S p := by
  cases prim with
  | points => rfl
  | lineStrip => rfl
  | triangleStrip =>
    rcases Nat.mod_two_eq_zero_or_one p with hp | hp <;>
      simp [xfbVertexIndicesWithGs, stripWinding, stripPrimitive, OutputPrimitives.verticesPerPrimitive, hp]

theorem stripPrimitive_add (prim : OutputPrimitives) (a S p : Nat) :
    stripPrimitive prim (a + S) p = (stripPrimitive prim S p).map (a + ·) := by
  cases prim <;> simp only [stripPrimitive, List.map_cons, List.map_nil, Nat.add_assoc]
  split_ifs <;> rfl

theorem length_stripPrimitive (prim : OutputPrimitives) (S p : Nat) :
    (stripPrimitive prim S p).length = prim.verticesPerPrimitive := by
  cases prim with
  | points => rfl
  | lineStrip => rfl
  | triangleStrip =>
    simp only [stripPrimitive]
    split_ifs <;> rfl

theorem mem_stripPrimitive {prim : OutputPrimitives} {S p e : Nat} (h : e ∈ stripPrimitive prim S p) :
    S ≤ e ∧ e < S + prim.verticesPerPrimitive := by
  cases prim <;> simp only [stripPrimitive, OutputPrimitives.verticesPerPrimitive] at h ⊢
  all_goals (try split_ifs at h) <;> simp only [List.mem_cons, List.not_mem_nil, or_false] at h <;> omega

/-- The GS-VS ring's layout: `outLocCount[s]` output locations per vertex of
stream `s`, and room for `gsPrimsPerSubgroup * invocations` GS invocations. -/
structure GsVsRing where
  outLocCount : Nat → Nat
  gsPrimsPerSubgroup : Nat

namespace GsVsRing

variable (ring : GsVsRing) (outputVertices : Nat)

def gsStreamBase : Nat → Nat
  | 0 => 0
  | i + 1 => gsStreamBase i + 4 * ring.outLocCount i * outputVertices * ring.gsPrimsPerSubgroup

def calcVertexItemOffset (streamId : StreamId) (vertexIndex : Nat) : Nat :=
  vertexIndex * (4 * ring.outLocCount streamId) + ring.gsStreamBase outputVertices streamId

theorem gsStreamBase_mono {i i' : Nat} (h : i ≤ i') :
    ring.gsStreamBase outputVertices i ≤ ring.gsStreamBase outputVertices i' := by
  induction h with
  | refl => exact le_rfl
  | step _ ih => exact le_trans ih (Nat.le_add_right _ _)

variable {ring outputVertices}

theorem slot_lt_gsStreamBase {s : StreamId} {vi loc e : Nat}
    (hvi : vi < ring.gsPrimsPerSubgroup * outputVertices) (hloc : loc < ring.outLocCount s) (he : e < 4) :
    ring.calcVertexItemOffset outputVertices s vi + loc * 4 + e < ring.gsStreamBase outputVertices (s.val + 1) := by
  have h1 : vi * (4 * ring.outLocCount s) + 4 * ring.outLocCount s ≤
      ring.gsPrimsPerSubgroup * outputVertices * (4 * ring.outLocCount s) := by
    rw [← Nat.succ_mul]
    exact Nat.mul_le_mul_right _ hvi
  have h2 : 4 * ring.outLocCount s * outputVertices * ring.gsPrimsPerSubgroup =
      ring.gsPrimsPerSubgroup * outputVertices * (4 * ring.outLocCount s) := by ring
  rw [calcVertexItemOffset, gsStreamBase, h2]
  omega

theorem ringSlot_inj {s s' : StreamId} {vi vi' loc loc' e e' : Nat}
    (hvi : vi < ring.gsPrimsPerSubgroup * outputVertices) (hvi' : vi' < ring.gsPrimsPerSubgroup * outputVertices)
    (hloc : loc < ring.outLocCount s) (hloc' : loc' < ring.outLocCount s') (he : e < 4) (he' : e' < 4)
    (h : ring.calcVertexItemOffset outputVertices s vi + loc * 4 + e =
      ring.calcVertexItemOffset outputVertices s' vi' + loc' * 4 + e') :
    s = s' ∧ vi = vi' ∧ loc = loc' ∧ e = e' := by
  have hlt := slot_lt_gsStreamBase hvi hloc he
  have hlt' := slot_lt_gsStreamBase hvi' hloc' he'
  simp only [calcVertexItemOffset] at h hlt hlt'
  have hss : s = s' := by
    refine Fin.ext (Nat.le_antisymm (Nat.not_lt.mp fun hs => ?_) (Nat.not_lt.mp fun hs => ?_))
    · have := ring.gsStreamBase_mono outputVertices (by omega : s'.val + 1 ≤ s.val)
      omega
    · have := ring.gsStreamBase_mono outputVertices (by omega : s.val + 1 ≤ s'.val)
      omega
  subst hss
  obtain ⟨rfl, rfl, rfl⟩ := @itemSlot_inj (4 * ring.outLocCount s) 0 (ring.outLocCount s) vi vi' loc loc' e e'
    (by omega) hloc hloc' he he' (by omega)
  exact ⟨rfl, rfl, rfl, rfl⟩

end GsVsRing

theorem vertexIndex_inj {n t t' e e' : Nat} (he : e < n) (he' : e' < n) (h : t * n + e = t' * n + e') :
    t = t' ∧ e = e' := by
  have ht : t = t' := by
    have := congrArg (· / n) h
    simpa [Nat.mul_comm _ n, Nat.mul_add_div (by omega : 0 < n), Nat.div_eq_of_lt he,
      Nat.div_eq_of_lt he'] using this
  subst ht
  omega

def importGsOutput (lds : Nat → Nat) (numElements location vertexOffset : Nat) : List Nat :=
  readValueFromLds lds numElements (vertexOffset + location * 4)

section Ring

variable (mode : GeometryShaderMode) (ring : GsVsRing) (rasterStream : StreamId) (enableSwXfb : Bool)
  (ws : WaveSize) (primCountInWave : Nat → Nat) (msgsOf : Nat → List GsMessage)

/-- The stores `exportGsOutput` makes for the emitted vertices: before its `e`-th
emit on stream `s`, invocation `t` has written `gsOutput t s e loc` to location
`loc` of vertex `t * outputVertices + e` of the stream. -/
def gsOutputStores (gsOutput : Nat → StreamId → Nat → Nat → List Nat) : List (Nat × Nat) :=
  ((List.range NggMaxThreadsPerSubgroup).filter (gsRuns ws primCountInWave)).flatMap fun t =>
    ((List.finRange MaxGsStreams).filter (isHandledStream rasterStream enableSwXfb)).flatMap fun s =>
      (List.range ((msgsOf t).count (.emit s))).flatMap fun e =>
        (List.range (ring.outLocCount s)).flatMap fun loc =>
          writeValueToLds (gsOutput t s e loc)
            (ring.calcVertexItemOffset mode.outputVertices s (t * mode.outputVertices + e) + loc * 4)

variable {mode ring rasterStream enableSwXfb ws primCountInWave msgsOf}

theorem importGsOutput_gsOutputStores {primCountInSubgroup : Nat}
    (hfit : GsFits mode ws primCountInWave msgsOf primCountInSubgroup)
    (hring : ∀ t < NggMaxThreadsPerSubgroup, gsRuns ws primCountInWave t → t < ring.gsPrimsPerSubgroup)
    {gsOutput : Nat → StreamId → Nat → Nat → List Nat} (hlen : ∀ t s e loc, (gsOutput t s e loc).length ≤ 4)
    (lds : Nat → Nat) {order : List (Nat × Nat)}
    (horder : order.Perm (gsOutputStores mode ring rasterStream enableSwXfb ws primCountInWave msgsOf gsOutput))
    {t : Nat} (ht : t < NggMaxThreadsPerSubgroup) (hrun : gsRuns ws primCountInWave t) {s : StreamId}
    (hs : isHandledStream rasterStream enableSwXfb s) {e : Nat} (he : e < (msgsOf t).count (.emit s))
    {loc : Nat} (hloc : loc < ring.outLocCount s) {n : Nat} (hn : n ≤ (gsOutput t s e loc).length) :
    importGsOutput (runStores lds order) n loc
      (ring.calcVertexItemOffset mode.outputVertices s (t * mode.outputVertices + e)) = (gsOutput t s e loc).take n := by
  have hvi : ∀ t e (s : StreamId), t < NggMaxThreadsPerSubgroup → gsRuns ws primCountInWave t →
      e < (msgsOf t).count (.emit s) → t * mode.outputVertices + e < ring.gsPrimsPerSubgroup * mode.outputVertices :=
    fun t e s ht hrun he => by
      have := hfit.emits t ht hrun s
      have := Nat.mul_le_mul_right mode.outputVertices (hring t ht hrun)
      rw [Nat.succ_mul] at this
      omega
  refine readValueFromLds_runStores lds hn (fun x hx => horder.mem_iff.mpr ?_) fun st hst x hx hst1 => ?_
  · exact List.mem_flatMap.mpr ⟨t, List.mem_filter.mpr ⟨List.mem_range.mpr ht, hrun⟩,
      List.mem_flatMap.mpr ⟨s, List.mem_filter.mpr ⟨List.mem_finRange s, hs⟩,
        List.mem_flatMap.mpr ⟨e, List.mem_range.mpr he, List.mem_flatMap.mpr
          ⟨loc, List.mem_range.mpr hloc, getElem_mem_writeValueToLds _ _ x hx⟩⟩⟩⟩
  · obtain ⟨t', ht', hmem⟩ := List.mem_flatMap.mp (horder.mem_iff.mp hst)
    obtain ⟨ht', hrun'⟩ := List.mem_filter.mp ht'
    obtain ⟨s', hs', hmem⟩ := List.mem_flatMap.mp hmem
    obtain ⟨e', he', hmem⟩ := List.mem_flatMap.mp hmem
    obtain ⟨loc', hloc', hmem⟩ := List.mem_flatMap.mp hmem
    obtain ⟨x', hx', rfl⟩ := mem_writeValueToLds hmem
    rw [List.mem_range] at ht' he' hloc'
    have hk := (hlen t s e loc)
    have hk' := (hlen t' s' e' loc')
    obtain ⟨rfl, hv, rfl, rfl⟩ := GsVsRing.ringSlot_inj (hvi t e s ht hrun he) (hvi t' e' s' ht' hrun' he')
      hloc hloc' (show x < 4 by omega) (show x' < 4 by omega) (by simpa only [Nat.add_assoc] using hst1.symm)
    have he1 := hfit.emits t ht hrun s
    have he2 := hfit.emits t' ht' hrun' s
    obtain ⟨rfl, rfl⟩ := vertexIndex_inj (by omega) (by omega) hv.symm
    rfl

end Ring

structure GsXfbConfig where
  mode : GeometryShaderMode
  rasterStream : StreamId
  streamXfbBuffers : StreamId → Nat
  ws : WaveSize
  ring : GsVsRing

def GsXfbConfig.activeStreams (g : GsXfbConfig) : List StreamId :=
  (List.finRange MaxGsStreams).filter (isStreamActive true g.streamXfbBuffers g.rasterStream)

structure GsSubgroup where
  primCountInWave : Nat → Nat
  msgsOf : Nat → List GsMessage
  primCountInSubgroup : Nat
  presentWaves : Nat
  gsOutput : Nat → StreamId → Nat → Nat → List Nat

/-- One execution of a subgroup's LDS phases: what each region held before, and
the order in which the stores or adds of each phase land. Each order is an
interleaving of the phase's operations; the barriers keep the phases apart. -/
structure GsRun (g : GsXfbConfig) (sg : GsSubgroup) where
  primData : Nat → Nat
  initOrder : List (Nat × Nat)
  gsOrder : List (Nat × Nat)
  counts : Nat → Nat
  schedule : List AtomicAdd
  indexMap : Nat → Nat
  mapOrder : List (Nat × Nat)
  gsVsRing : Nat → Nat
  ringOrder : List (Nat × Nat)
  initOrder_perm : initOrder.Perm (initOutPrimData true g.streamXfbBuffers g.rasterStream sg.primCountInSubgroup)
  gsOrder_perm : gsOrder.Perm (gsPhaseStores g.mode g.rasterStream true g.ws sg.primCountInWave sg.msgsOf)
  schedule_perm : schedule.Perm (accumOutPrimCount g.activeStreams g.ws
    (drawFlag (gsPhaseLds primData initOrder gsOrder) sg.primCountInSubgroup) sg.presentWaves)
  mapOrder_perm : mapOrder.Perm (compactOutPrimIdStores g.activeStreams g.ws
    (drawFlag (gsPhaseLds primData initOrder gsOrder) sg.primCountInSubgroup) sg.presentWaves
    (runAtomics (initOutPrimCount g.activeStreams g.ws sg.presentWaves counts) schedule))
  ringOrder_perm : ringOrder.Perm
    (gsOutputStores g.mode g.ring g.rasterStream true g.ws sg.primCountInWave sg.msgsOf sg.gsOutput)

namespace GsRun

variable {g : GsXfbConfig} {sg : GsSubgroup} (r : GsRun g sg)

def primDataLds : Nat → Nat := gsPhaseLds r.primData r.initOrder r.gsOrder

def countsLds : Nat → Nat := runAtomics (initOutPrimCount g.activeStreams g.ws sg.presentWaves r.counts) r.schedule

def primCountInStream (s : StreamId) : Nat := r.countsLds (countsBase s + g.ws.waveCountInSubgroup)

def indexMapLds : Nat → Nat := runStores r.indexMap r.mapOrder

def gsVsRingLds : Nat → Nat := runStores r.gsVsRing r.ringOrder

/-- What lane `c` of `.exportXfbOutputInStream[s]` reads for output `j` at vertex
`v` of its primitive: the primitive's entry from the index map, its vertices,
and the output's location in the ring item of vertex `v`. -/
def fetch (outputs : List XfbOutputExport) (s : StreamId) (c v j : Nat) : List Nat :=
  let uncompactedPrimitiveId := r.indexMapLds (c + NggMaxThreadsPerSubgroup * s)
  importGsOutput r.gsVsRingLds ((outputs.map XfbOutputExport.numElements).getD j 0)
    ((outputs.map XfbOutputExport.loc).getD j 0)
    (g.ring.calcVertexItemOffset g.mode.outputVertices s
      ((xfbVertexIndicesWithGs g.mode.outputPrimitive.verticesPerPrimitive uncompactedPrimitiveId
        (r.primDataLds (uncompactedPrimitiveId + NggMaxThreadsPerSubgroup * s))).getD v 0))

end GsRun

namespace GsSubgroup

variable (g : GsXfbConfig) (outputs : List XfbOutputExport) (sg : GsSubgroup)

/-- API primitive `x = (t, j, p)` of stream `s`: output `o` at its vertex `v` is
what invocation `t` wrote to `o`'s location for its vertex `v` in the API's
order, as many dwords as `o` has. -/
def apiPrimitive (s : StreamId) (x : Nat × Nat × Nat) : Prim := fun v j =>
  (sg.gsOutput x.1 s ((stripPrimitive g.mode.outputPrimitive x.2.1 x.2.2).getD v 0)
    ((outputs.map XfbOutputExport.loc).getD j 0)).take ((outputs.map XfbOutputExport.numElements).getD j 0)

def apiPrims (s : StreamId) : List Prim :=
  (apiPrimitivesOf g.mode g.ws sg.primCountInWave sg.msgsOf s).map (sg.apiPrimitive g outputs s)

structure Valid : Prop where
  fits : GsFits g.mode g.ws sg.primCountInWave sg.msgsOf sg.primCountInSubgroup
  presentWaves_pos : 1 ≤ sg.presentWaves
  presentWaves_le : sg.presentWaves ≤ g.ws.waveCountInSubgroup
  primCount_le : sg.primCountInSubgroup ≤ sg.presentWaves * g.ws.val
  ring_fits : ∀ t < NggMaxThreadsPerSubgroup, gsRuns g.ws sg.primCountInWave t → t < g.ring.gsPrimsPerSubgroup
  gsOutput_length : ∀ t s e loc, (sg.gsOutput t s e loc).length ≤ 4
  numElements_le : ∀ t e, ∀ o ∈ outputs, o.numElements ≤ (sg.gsOutput t o.streamId e o.loc).length
  loc_lt : ∀ o ∈ outputs, o.loc < g.ring.outLocCount o.streamId

end GsSubgroup

namespace GsRun

variable {g : GsXfbConfig} {outputs : List XfbOutputExport} {sg : GsSubgroup}
  (hvalid : sg.Valid g outputs) (r : GsRun g sg)
include hvalid

theorem countsLds_slot {s : StreamId} (hs : s ∈ g.activeStreams) {k : Nat} (hk : k ≤ g.ws.waveCountInSubgroup) :
    r.countsLds (countsBase s + k) = ∑ w ∈ Finset.range (min k sg.presentWaves),
      countInWave g.ws (drawFlag r.primDataLds sg.primCountInSubgroup s) w :=
  primCounts_slot hvalid.presentWaves_pos ((List.nodup_finRange _).filter _) r.counts r.schedule_perm hs hk

variable {s : StreamId} (hs : s ∈ g.activeStreams)
include hs

theorem filter_range_drawFlag :
    (List.range (sg.presentWaves * g.ws.val)).filter (drawFlag r.primDataLds sg.primCountInSubgroup s) =
      (apiPrimitivesOf g.mode g.ws sg.primCountInWave sg.msgsOf s).map (primSlot g.mode) :=
  filter_drawFlag hvalid.fits r.primData r.initOrder_perm r.gsOrder_perm (List.mem_filter.mp hs).2
    hvalid.primCount_le

theorem primCountInStream_eq :
    r.primCountInStream s = (apiPrimitivesOf g.mode g.ws sg.primCountInWave sg.msgsOf s).length := by
  rw [primCountInStream, countsLds_slot hvalid r hs le_rfl,
    min_eq_right hvalid.presentWaves_le, sum_countInWave, ← length_filter_range,
    filter_range_drawFlag hvalid r hs, List.length_map]

theorem indexMapLds_eq {c : Nat} (hc : c < (apiPrimitivesOf g.mode g.ws sg.primCountInWave sg.msgsOf s).length) :
    r.indexMapLds (c + NggMaxThreadsPerSubgroup * s) =
      primSlot g.mode (apiPrimitivesOf g.mode g.ws sg.primCountInWave sg.msgsOf s)[c] := by
  have hF := filter_range_drawFlag hvalid r hs
  have hcF : c < ((List.range (sg.presentWaves * g.ws.val)).filter
      (drawFlag r.primDataLds sg.primCountInSubgroup s)).length := by
    rw [hF, List.length_map]
    exact hc
  rw [indexMapLds, runStores_compactOutPrimIdStores hvalid.presentWaves_le
    (fun s' hs' k hk => countsLds_slot hvalid r hs' hk) r.indexMap r.mapOrder_perm hs hcF]
  simp only [hF, List.getElem_map]

theorem fetch_eq_apiPrimitive {c : Nat}
    (hc : c < (apiPrimitivesOf g.mode g.ws sg.primCountInWave sg.msgsOf s).length)
    {v : Nat} (hv : v < g.mode.outputPrimitive.verticesPerPrimitive) {j : Nat} (hj : j < outputs.length)
    (hjs : outputs[j].streamId = s) :
    r.fetch outputs s c v j =
      sg.apiPrimitive g outputs s (apiPrimitivesOf g.mode g.ws sg.primCountInWave sg.msgsOf s)[c] v j := by
  obtain ⟨⟨t, e0, p⟩, hx⟩ : ∃ x, (apiPrimitivesOf g.mode g.ws sg.primCountInWave sg.msgsOf s)[c] = x :=
    ⟨_, rfl⟩
  obtain ⟨ht, hrun, hsp⟩ := mem_apiPrimitivesOf.mp (hx ▸ List.getElem_mem hc)
  dsimp only at ht hrun hsp
  have hb := startsPrimitive_add_le_count hsp
  have := hvalid.fits.emits t ht hrun s
  have hwind : r.primDataLds (t * g.mode.outputVertices + e0 + NggMaxThreadsPerSubgroup * s) =
      stripWinding g.mode.outputPrimitive p :=
    gsPhaseLds_of_starts hvalid.fits r.primData r.initOrder r.gsOrder_perm
      (isHandledStream_of_active (List.mem_filter.mp hs).2) ht hrun (by omega) hsp
  have hvl : v < (stripPrimitive g.mode.outputPrimitive e0 p).length := by rwa [length_stripPrimitive]
  have he := mem_stripPrimitive (List.getElem_mem hvl)
  have hgetD : ((stripPrimitive g.mode.outputPrimitive (t * g.mode.outputVertices + e0) p).getD v 0) =
      t * g.mode.outputVertices + (stripPrimitive g.mode.outputPrimitive e0 p)[v] := by
    rw [stripPrimitive_add, List.getD_eq_getElem _ _ (by simpa using hvl), List.getElem_map]
  have hloc := hjs ▸ hvalid.loc_lt _ (List.getElem_mem hj)
  have hnum := hjs ▸ hvalid.numElements_le t (stripPrimitive g.mode.outputPrimitive e0 p)[v] _ (List.getElem_mem hj)
  rw [fetch, indexMapLds_eq hvalid r hs hc, hx, primSlot_mk, hwind, xfbVertexIndicesWithGs_stripWinding, hgetD,
    GsSubgroup.apiPrimitive, List.getD_eq_getElem _ _ hvl, List.getD_eq_getElem _ _ (by simpa using hj),
    List.getD_eq_getElem _ _ (by simpa using hj), List.getElem_map, List.getElem_map]
  exact importGsOutput_gsOutputStores hvalid.fits hvalid.ring_fits hvalid.gsOutput_length r.gsVsRing
    r.ringOrder_perm ht hrun (isHandledStream_of_active (List.mem_filter.mp hs).2) (by omega) hloc hnum

end GsRun

end NggPrimShader.Xfb.GsStaging
