import NggPrimShader.Gs.PrimData
import NggPrimShader.Wave.Compaction

/-! Culling, draw flags and vertex compaction of `buildPrimShaderWithGs`, and the
starting index each primitive export receives. An output vertex is drawn when a
valid primitive uses it; the compaction ranks the drawn vertices, and the
consecutive vertices of a valid primitive get consecutive ranks, so its export
names the copy-shader lanes that export its own vertices. -/
namespace NggPrimShader.Gs.VertexCompaction

open NggPrimShader.Basic NggPrimShader.Wave.Compaction

/-- `.culling` and `.nullifyOutPrimData`: a valid entry below
`primCountInSubgroup` whose primitive the cullers reject becomes `NullPrim`;
`culled` is the cullers' outcome. -/
def cullPrimData (primCountInSubgroup : Nat) (culled : Nat → Bool) (primData : Nat → Nat) :
    Nat → Nat :=
  fun n => if n < primCountInSubgroup ∧ primData n ≠ NullPrim ∧ culled n then NullPrim else primData n

theorem cullPrimData_valid {primCountInSubgroup : Nat} {culled : Nat → Bool} {primData : Nat → Nat}
    {n : Nat} (h : cullPrimData primCountInSubgroup culled primData n ≠ NullPrim) :
    primData n ≠ NullPrim := by
  unfold cullPrimData at h
  split_ifs at h with hc
  · exact absurd rfl h
  · exact h

/-- `.checkOutVertDrawFlag`: output vertex `n` below `vertCountInSubgroup` is
drawn when the entry at `n`, or at `n - 1` (`outVertsPerPrim > 1`) or `n - 2`
(`outVertsPerPrim > 2`), is valid. -/
def outVertDrawFlag (outVertsPerPrim : Nat) (primData : Nat → Nat) (vertCountInSubgroup n : Nat) :
    Bool :=
  decide (n < vertCountInSubgroup) &&
    (primData n != NullPrim ||
      (decide (outVertsPerPrim > 1) && (decide (n ≥ 1) && primData (n - 1) != NullPrim)) ||
      (decide (outVertsPerPrim > 2) && (decide (n ≥ 2) && primData (n - 2) != NullPrim)))

theorem outVertDrawFlag_iff {k : Nat} (hk0 : 0 < k) (hk : k ≤ 3) (primData : Nat → Nat)
    (vertCountInSubgroup n : Nat) :
    outVertDrawFlag k primData vertCountInSubgroup n ↔
      n < vertCountInSubgroup ∧ ∃ i < k, i ≤ n ∧ primData (n - i) ≠ NullPrim := by
  simp only [outVertDrawFlag, Bool.and_eq_true, Bool.or_eq_true, decide_eq_true_eq, bne_iff_ne, ne_eq]
  constructor
  · rintro ⟨hn, (h0 | ⟨hk1, hn1, h1⟩) | ⟨hk2, hn2, h2⟩⟩
    · exact ⟨hn, 0, hk0, Nat.zero_le _, h0⟩
    · exact ⟨hn, 1, hk1, hn1, h1⟩
    · exact ⟨hn, 2, hk2, hn2, h2⟩
  · rintro ⟨hn, i, hi, hin, h⟩
    refine ⟨hn, ?_⟩
    rcases (by omega : i = 0 ∨ i = 1 ∨ i = 2) with rfl | rfl | rfl
    · exact Or.inl (Or.inl h)
    · exact Or.inl (Or.inr ⟨hi, hin, h⟩)
    · exact Or.inr ⟨hi, hin, h⟩

theorem count_add_of_forall {p : Nat → Bool} {n j : Nat} (h : ∀ i < j, p (n + i)) :
    Nat.count (fun u => p u) (n + j) = Nat.count (fun u => p u) n + j := by
  induction j with
  | zero => rfl
  | succ j ih =>
    rw [← Nat.add_assoc, Nat.count_succ, ih fun i hi => h i (by omega), if_pos (h j (by omega))]
    rfl

theorem count_le_of_lt {p : Nat → Bool} {bound : Nat} (h : ∀ t, p t → t < bound) (n : Nat) :
    Nat.count (fun u => p u) n ≤ bound := by
  induction n with
  | zero => simp
  | succ n ih =>
    rw [Nat.count_succ]
    split_ifs with hn
    · have := h n hn
      have : Nat.count (fun u => p u = true) n ≤ n := Nat.count_le _
      omega
    · simpa using ih

variable (ws : WaveSize) (base : Nat) (flag : Nat → Bool)

/-- `.endCompactOutVertId`: a drawn thread takes its compacted index when fewer
vertices are drawn than the GS output (`hasCulledVertices`); any other thread
keeps its own id. -/
def compactedVertexIndex (counts : Nat → Nat) (vertCountInSubgroup t : Nat) : Nat :=
  if flag t && decide (counts (base + ws.waveCountInSubgroup) < vertCountInSubgroup) then
    compactedIndex base ws flag counts t
  else t

def vertexIndexMapStores (counts : Nat → Nat) (vertCountInSubgroup n : Nat) : List (Nat × Nat) :=
  if counts (base + ws.waveCountInSubgroup) < vertCountInSubgroup then
    indexMapStores flag (compactedIndex base ws flag counts) n
  else []

/-- `runCopyShader`: lane `t` exports GS output vertex `VertexIndexMap[t]` when
vertices were compacted, vertex `t` otherwise. -/
def copyShaderVertexIndex (compactVertex : Bool) (indexMap : Nat → Nat) (t : Nat) : Nat :=
  if compactVertex then indexMap t else t

variable {ws base}

/-- The GS path's compaction with vertex compaction enabled, in any subgroup:
an output vertex is drawn exactly when it belongs to a primitive whose entry
survived culling, and a surviving primitive at lane `n` is exported from a
starting index `c` such that lane `c + i` is the compacted lane of vertex
`n + i` and runs the copy shader for it, with `c + k - 1` below the vertex count
that GS_ALLOC_REQ sends. -/
theorem gs_export_compacted_vertices {k : Nat} (hk0 : 0 < k) (hk : k ≤ 3) {m : Nat} (hm1 : 1 ≤ m)
    (hm : m ≤ ws.waveCountInSubgroup) {primCountInSubgroup vertCountInSubgroup : Nat}
    (hP : primCountInSubgroup ≤ NggMaxThreadsPerSubgroup) (hV : vertCountInSubgroup ≤ m * ws.val)
    (primData : Nat → Nat) (culled : Nat → Bool)
    (hprim : ∀ n < primCountInSubgroup, primData n ≠ NullPrim → n + k ≤ vertCountInSubgroup)
    (lds : Nat → Nat) {schedule rest : List AtomicAdd}
    (hsched : schedule.Perm (countOps base ws
      (outVertDrawFlag k (cullPrimData primCountInSubgroup culled primData) vertCountInSubgroup) m ++ rest))
    (hrest : ∀ op ∈ rest, op.slot < base ∨ base + ws.waveCountInSubgroup < op.slot)
    (mapLds : Nat → Nat) {order : List (Nat × Nat)}
    (horder : order.Perm (vertexIndexMapStores ws base
      (outVertDrawFlag k (cullPrimData primCountInSubgroup culled primData) vertCountInSubgroup)
      (countsAfter base ws m lds schedule) vertCountInSubgroup (m * ws.val))) :
    (∀ n < vertCountInSubgroup,
      outVertDrawFlag k (cullPrimData primCountInSubgroup culled primData) vertCountInSubgroup n ↔
        ∃ i < k, i ≤ n ∧ cullPrimData primCountInSubgroup culled primData (n - i) ≠ NullPrim) ∧
    ∀ n < primCountInSubgroup, cullPrimData primCountInSubgroup culled primData n ≠ NullPrim →
      (∀ i < k,
        compactedVertexIndex ws base
            (outVertDrawFlag k (cullPrimData primCountInSubgroup culled primData) vertCountInSubgroup)
            (countsAfter base ws m lds schedule) vertCountInSubgroup (n + i) =
          compactedVertexIndex ws base
            (outVertDrawFlag k (cullPrimData primCountInSubgroup culled primData) vertCountInSubgroup)
            (countsAfter base ws m lds schedule) vertCountInSubgroup n + i ∧
        copyShaderVertexIndex
            (decide (countsAfter base ws m lds schedule (base + ws.waveCountInSubgroup) < vertCountInSubgroup))
            (runStores mapLds order)
            (compactedVertexIndex ws base
              (outVertDrawFlag k (cullPrimData primCountInSubgroup culled primData) vertCountInSubgroup)
              (countsAfter base ws m lds schedule) vertCountInSubgroup n + i) = n + i) ∧
      compactedVertexIndex ws base
          (outVertDrawFlag k (cullPrimData primCountInSubgroup culled primData) vertCountInSubgroup)
          (countsAfter base ws m lds schedule) vertCountInSubgroup n + k - 1 <
        createUBfe (gsAllocReqMessage (countsAfter base ws m lds schedule (base + ws.waveCountInSubgroup))
          primCountInSubgroup) 0 11 := by
  set flag := outVertDrawFlag k (cullPrimData primCountInSubgroup culled primData) vertCountInSubgroup
  set counts := countsAfter base ws m lds schedule
  have hD : counts (base + ws.waveCountInSubgroup) = Nat.count (fun t => flag t) (m * ws.val) :=
    countsAfter_total hm1 lds hsched hrest hm
  have hrank : ∀ t < m * ws.val, compactedIndex base ws flag counts t = Nat.count (fun u => flag u) t :=
    fun _ ht => compactedIndex_rank hm1 lds hsched hrest hm ht
  have hmV : m * ws.val ≤ NggMaxThreadsPerSubgroup :=
    ws.waveCount_mul ▸ Nat.mul_le_mul_right ws.val hm
  have hDV : counts (base + ws.waveCountInSubgroup) ≤ vertCountInSubgroup :=
    hD ▸ count_le_of_lt (fun t ht => ((outVertDrawFlag_iff hk0 hk _ _ t).mp ht).1) _
  have hmsg : createUBfe (gsAllocReqMessage (counts (base + ws.waveCountInSubgroup)) primCountInSubgroup)
      0 11 = counts (base + ws.waveCountInSubgroup) := by
    unfold NggMaxThreadsPerSubgroup at hP hmV
    exact (gsAllocReqMessage_fields (by omega) (by omega)).1
  refine ⟨fun n hn => by rw [outVertDrawFlag_iff hk0 hk]; exact ⟨fun h => h.2, fun h => ⟨hn, h⟩⟩,
    fun n hn hvalid => ?_⟩
  have hfit := hprim n hn (cullPrimData_valid hvalid)
  have hdrawn : ∀ i < k, flag (n + i) := fun i hi =>
    (outVertDrawFlag_iff hk0 hk _ _ _).mpr ⟨by omega, i, hi, by omega, by rwa [Nat.add_sub_cancel]⟩
  rw [hmsg]
  by_cases hc : counts (base + ws.waveCountInSubgroup) < vertCountInSubgroup
  · -- compacted: the index of a drawn vertex is its rank among the drawn vertices
    have hidx : ∀ i < k, compactedVertexIndex ws base flag counts vertCountInSubgroup (n + i) =
        Nat.count (fun u => flag u) n + i := fun i hi => by
      rw [compactedVertexIndex, if_pos (by simp [hdrawn i hi, hc]), hrank _ (by omega),
        count_add_of_forall fun i' hi' => hdrawn i' (by omega)]
    have h0 := hidx 0 hk0
    simp only [Nat.add_zero] at h0
    rw [vertexIndexMapStores, if_pos hc] at horder
    refine ⟨fun i hi => ⟨by rw [hidx i hi, h0], ?_⟩, ?_⟩
    · rw [copyShaderVertexIndex, if_pos (decide_eq_true hc), h0, ← hidx i hi, compactedVertexIndex,
        if_pos (by simp [hdrawn i hi, hc])]
      exact runStores_indexMapStores hrank mapLds horder (by omega) (hdrawn i hi)
    · rw [h0, hD, show Nat.count (fun u => flag u) n + k - 1 = Nat.count (fun u => flag u) (n + (k - 1))
        by rw [count_add_of_forall fun i hi => hdrawn i (by omega)]; omega]
      exact Nat.count_strict_mono (hdrawn (k - 1) (by omega)) (by omega)
  · -- nothing culled: every lane keeps its own vertex
    have hid : ∀ t, compactedVertexIndex ws base flag counts vertCountInSubgroup t = t := fun t => by
      rw [compactedVertexIndex, if_neg (by simp [hc])]
    refine ⟨fun i _ => ⟨by rw [hid, hid], ?_⟩, by rw [hid]; omega⟩
    rw [copyShaderVertexIndex, if_neg (by simpa using hc), hid]

theorem gs_export_compacted_vertices_culledFirst :
    let primData : Nat → Nat := fun n => if n < 2 then n else NullPrim
    let culled : Nat → Bool := fun n => n == 0
    let flag := outVertDrawFlag 3 (cullPrimData 2 culled primData) 4
    let counts := countsAfter 0 WaveSize.wave32 1 (fun _ => 0) (countOps 0 WaveSize.wave32 flag 1)
    compactedVertexIndex WaveSize.wave32 0 flag counts 4 1 = 0 ∧
    (∀ n < 2, primData n ≠ NullPrim → n + 3 ≤ 4) ∧
    (∀ n < 4, flag n ↔ ∃ i < 3, i ≤ n ∧ cullPrimData 2 culled primData (n - i) ≠ NullPrim) ∧
    ∀ n < 2, cullPrimData 2 culled primData n ≠ NullPrim →
      (∀ i < 3,
        compactedVertexIndex WaveSize.wave32 0 flag counts 4 (n + i) =
          compactedVertexIndex WaveSize.wave32 0 flag counts 4 n + i ∧
        copyShaderVertexIndex (decide (counts (0 + WaveSize.wave32.waveCountInSubgroup) < 4))
            (runStores (fun _ => 0) (vertexIndexMapStores WaveSize.wave32 0 flag counts 4
              (1 * WaveSize.wave32.val)))
            (compactedVertexIndex WaveSize.wave32 0 flag counts 4 n + i) = n + i) ∧
      compactedVertexIndex WaveSize.wave32 0 flag counts 4 n + 3 - 1 <
        createUBfe (gsAllocReqMessage (counts (0 + WaveSize.wave32.waveCountInSubgroup)) 2) 0 11 := by
  have hprim : ∀ n < 2, (fun n => if n < 2 then n else NullPrim : Nat → Nat) n ≠ NullPrim → n + 3 ≤ 4 := by
    decide
  exact ⟨by decide, hprim, gs_export_compacted_vertices (by decide) le_rfl le_rfl (by decide) (by decide)
    (by decide) _ (fun n => n == 0) hprim (fun _ => 0) (List.Perm.of_eq (List.append_nil _).symm) (by simp)
    (fun _ => 0) (List.Perm.refl _)⟩

end NggPrimShader.Gs.VertexCompaction
