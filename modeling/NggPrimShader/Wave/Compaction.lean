import NggPrimShader.Wave.Ballot
import Mathlib.Algebra.BigOperators.Group.Finset
import Mathlib.Data.List.Perm.Basic

/-! The cooperative prefix sum behind every compaction of the primitive shader.
Each present wave adds its ballot count to the count slots of all later waves
with LDS atomics, in any interleaving; after the barrier every drawn thread
reads its wave's slot, adds its lane rank and obtains its dense index. -/
namespace NggPrimShader.Wave.Compaction

open NggPrimShader.Basic NggPrimShader.Wave.Ballot

structure AtomicAdd where
  slot : Nat
  value : Nat
  deriving DecidableEq, Repr

def AtomicAdd.run (lds : Nat → Nat) (op : AtomicAdd) : Nat → Nat :=
  fun k => if k = op.slot then lds k + op.value else lds k

def runAtomics (lds : Nat → Nat) (ops : List AtomicAdd) : Nat → Nat :=
  ops.foldl AtomicAdd.run lds

def addedTo (ops : List AtomicAdd) (slot : Nat) : Nat :=
  (ops.map fun op => if slot = op.slot then op.value else 0).sum

theorem runAtomics_eq (lds : Nat → Nat) (ops : List AtomicAdd) (k : Nat) :
    runAtomics lds ops k = lds k + addedTo ops k := by
  induction ops generalizing lds with
  | nil => simp [runAtomics, addedTo]
  | cons op ops ih =>
    simp only [runAtomics, List.foldl_cons] at ih ⊢
    rw [ih, AtomicAdd.run]
    simp only [addedTo, List.map_cons, List.sum_cons]
    split <;> omega

theorem addedTo_eq_zero {ops : List AtomicAdd} {k : Nat} (h : ∀ op ∈ ops, op.slot ≠ k) :
    addedTo ops k = 0 := by
  induction ops with
  | nil => rfl
  | cons op ops ih =>
    simp only [addedTo, List.map_cons, List.sum_cons] at ih ⊢
    rw [if_neg (Ne.symm (h op (List.mem_cons_self _ _))),
      ih fun o ho => h o (List.mem_cons_of_mem _ ho)]

theorem addedTo_append (ops ops' : List AtomicAdd) (k : Nat) :
    addedTo (ops ++ ops') k = addedTo ops k + addedTo ops' k := by
  simp [addedTo]

theorem runAtomics_perm (lds : Nat → Nat) {ops ops' : List AtomicAdd} (h : ops.Perm ops') :
    runAtomics lds ops = runAtomics lds ops' := by
  funext k
  rw [runAtomics_eq, runAtomics_eq, addedTo, addedTo, (h.map _).sum_eq]

def laneAdds (slot0 value : Nat) : Nat → List AtomicAdd
  | 0 => []
  | n + 1 => laneAdds slot0 value n ++ [⟨slot0 + n, value⟩]

theorem addedTo_laneAdds (slot0 value n k : Nat) :
    addedTo (laneAdds slot0 value n) k = if slot0 ≤ k ∧ k < slot0 + n then value else 0 := by
  induction n with
  | zero => rw [if_neg (by omega)]; rfl
  | succ n ih =>
    rw [laneAdds, addedTo_append, ih]
    simp only [addedTo, List.map_cons, List.map_nil, List.sum_cons, List.sum_nil]
    split_ifs <;> omega

variable (base : Nat) (ws : WaveSize) (flag : Nat → Bool)

def waveFlag (w : Nat) : Nat → Bool := fun lane => flag (threadIdInSubgroup ws w lane)

def drawMask (w : Nat) : Nat := ballot (waveFlag ws flag w) ws.val

/-- `ctpop` of the 64-bit draw mask of wave `w` (a wave32 mask is zero-extended). -/
def countInWave (w : Nat) : Nat := popCount (drawMask ws flag w) 64

/-- The accumulation of wave `w`: lanes below `waveCount - waveId` add the wave's
count at `regionStart + waveId + lane + 1`. -/
def waveAdds (w : Nat) : List AtomicAdd :=
  laneAdds (base + w + 1) (countInWave ws flag w) (ws.waveCountInSubgroup - w)

def countOps : Nat → List AtomicAdd
  | 0 => []
  | m + 1 => countOps m ++ waveAdds base ws flag m

theorem mem_laneAdds {slot0 value n : Nat} {op : AtomicAdd} (h : op ∈ laneAdds slot0 value n) :
    slot0 ≤ op.slot ∧ op.slot < slot0 + n := by
  induction n with
  | zero => simp [laneAdds] at h
  | succ n ih =>
    rcases List.mem_append.mp h with h | h
    · have := ih h; omega
    · rw [List.mem_singleton.mp h]; exact ⟨by simp, by simp⟩

theorem mem_countOps {m : Nat} {op : AtomicAdd} (h : op ∈ countOps base ws flag m) :
    base < op.slot ∧ op.slot ≤ base + ws.waveCountInSubgroup := by
  induction m with
  | zero => simp [countOps] at h
  | succ m ih =>
    rcases List.mem_append.mp h with h | h
    · exact ih h
    · have := mem_laneAdds h; omega

def initCounts (m : Nat) (lds : Nat → Nat) : Nat → Nat :=
  fun k => if base ≤ k ∧ k ≤ base + ws.waveCountInSubgroup ∧ k - base < m * ws.val then 0
    else lds k

def countsAfter (m : Nat) (lds : Nat → Nat) (schedule : List AtomicAdd) : Nat → Nat :=
  runAtomics (initCounts base ws m lds) schedule

/-- The index a thread computes: `readlane` of its wave's slot plus the `mbcnt`
rank of its lane in the wave's ballot. -/
def compactedIndex (counts : Nat → Nat) (t : Nat) : Nat :=
  counts (base + t / ws.val) + mbcnt ws (t % ws.val) (drawMask ws flag (t / ws.val))

theorem countInWave_eq (w : Nat) :
    countInWave ws flag w = Nat.count (fun lane => waveFlag ws flag w lane) ws.val := by
  rw [countInWave, drawMask, popCount, ← Nat.add_sub_cancel' ws.val_le, Nat.count_add,
    ← popCount, popCount_ballot _ le_rfl]
  simp [Nat.count_eq_card_filter_range, Finset.filter_eq_empty_iff]

theorem sum_countInWave (j : Nat) :
    ∑ w ∈ Finset.range j, countInWave ws flag w = Nat.count (fun t => flag t) (j * ws.val) := by
  induction j with
  | zero => simp
  | succ j ih =>
    rw [Finset.sum_range_succ, ih, countInWave_eq, Nat.succ_mul, Nat.count_add]
    rfl

theorem addedTo_countOps {k : Nat} (hk : k ≤ ws.waveCountInSubgroup) (m : Nat) :
    addedTo (countOps base ws flag m) (base + k) =
      ∑ w ∈ Finset.range (min k m), countInWave ws flag w := by
  induction m with
  | zero => simp [countOps, addedTo]
  | succ m ih =>
    rw [countOps, addedTo_append, ih, waveAdds, addedTo_laneAdds]
    rcases Nat.lt_or_ge m k with h | h
    · rw [if_pos ⟨by omega, by omega⟩, show min k (m + 1) = min k m + 1 by omega,
        show min k m = m by omega, Finset.sum_range_succ]
    · rw [if_neg (by omega), show min k (m + 1) = min k m by omega, Nat.add_zero]

def indexMapStores (idx : Nat → Nat) (n : Nat) : List (Nat × Nat) :=
  ((List.range n).filter flag).map fun t => (idx t, t)

structure CompactionSpec (m : Nat) (counts idx indexMap : Nat → Nat) : Prop where
  slot_eq : ∀ k ≤ ws.waveCountInSubgroup,
    counts (base + k) = ∑ w ∈ Finset.range (min k m), countInWave ws flag w
  total_eq : counts (base + ws.waveCountInSubgroup) = Nat.count (fun t => flag t) (m * ws.val)
  index_eq_rank : ∀ t < m * ws.val, flag t → idx t = Nat.count (fun u => flag u) t
  index_lt_total : ∀ t < m * ws.val, flag t → idx t < counts (base + ws.waveCountInSubgroup)
  index_strictMono : ∀ t u, u < m * ws.val → flag t → flag u → t < u → idx t < idx u
  index_onto : ∀ c < counts (base + ws.waveCountInSubgroup), ∃ t < m * ws.val, flag t ∧ idx t = c
  indexMap_index : ∀ t < m * ws.val, flag t → indexMap (idx t) = t

variable {base ws flag}

theorem countsAfter_slot {m : Nat} (hm1 : 1 ≤ m) (lds : Nat → Nat) {schedule rest : List AtomicAdd}
    (hsched : schedule.Perm (countOps base ws flag m ++ rest))
    (hrest : ∀ op ∈ rest, op.slot < base ∨ base + ws.waveCountInSubgroup < op.slot)
    {k : Nat} (hk : k ≤ ws.waveCountInSubgroup) :
    countsAfter base ws m lds schedule (base + k) =
      ∑ w ∈ Finset.range (min k m), countInWave ws flag w := by
  have hinit : initCounts base ws m lds (base + k) = 0 :=
    if_pos ⟨by omega, by omega, by
      have := ws.waveCount_lt_val; have := Nat.le_mul_of_pos_left ws.val hm1; omega⟩
  rw [countsAfter, runAtomics_perm _ hsched, runAtomics_eq, hinit, addedTo_append,
    addedTo_countOps base ws flag hk, addedTo_eq_zero fun op hop => by have := hrest op hop; omega]
  simp

theorem compactedIndex_eq {m : Nat} (hm : m ≤ ws.waveCountInSubgroup) {counts : Nat → Nat}
    (hcounts : ∀ k ≤ ws.waveCountInSubgroup,
      counts (base + k) = ∑ w ∈ Finset.range (min k m), countInWave ws flag w)
    {t : Nat} (ht : t < m * ws.val) :
    compactedIndex base ws flag counts t = Nat.count (fun u => flag u) t := by
  have hw : t / ws.val < m := Nat.div_lt_of_lt_mul (by rwa [Nat.mul_comm])
  rw [compactedIndex, hcounts _ (by omega), show min (t / ws.val) m = t / ws.val by omega,
    sum_countInWave, drawMask, mbcnt_ballot ws _ (Nat.mod_lt _ ws.val_pos)]
  simp only [waveFlag, threadIdInSubgroup]
  rw [← Nat.count_add (fun u => flag u = true), Nat.div_add_mod']

theorem exists_count_eq {p : Nat → Prop} [DecidablePred p] {n c : Nat} (hc : c < Nat.count p n) :
    ∃ t < n, p t ∧ Nat.count p t = c := by
  induction n with
  | zero => simp at hc
  | succ n ih =>
    rw [Nat.count_succ] at hc
    by_cases hn : p n
    · rcases Nat.lt_or_ge c (Nat.count p n) with h | h
      · obtain ⟨t, ht, hp, he⟩ := ih h
        exact ⟨t, by omega, hp, he⟩
      · exact ⟨n, by omega, hn, by simp only [hn, if_true] at hc; omega⟩
    · obtain ⟨t, ht, hp, he⟩ := ih (by simpa [hn] using hc)
      exact ⟨t, by omega, hp, he⟩

section Schedule

variable {m : Nat} (hm1 : 1 ≤ m) (lds : Nat → Nat) {schedule rest : List AtomicAdd}
  (hsched : schedule.Perm (countOps base ws flag m ++ rest))
  (hrest : ∀ op ∈ rest, op.slot < base ∨ base + ws.waveCountInSubgroup < op.slot)
include hm1 hsched hrest

theorem countsAfter_total (hm : m ≤ ws.waveCountInSubgroup) :
    countsAfter base ws m lds schedule (base + ws.waveCountInSubgroup) =
      Nat.count (fun t => flag t) (m * ws.val) := by
  rw [countsAfter_slot hm1 lds hsched hrest le_rfl, show min ws.waveCountInSubgroup m = m by omega,
    sum_countInWave]

theorem compactedIndex_rank (hm : m ≤ ws.waveCountInSubgroup) {t : Nat} (ht : t < m * ws.val) :
    compactedIndex base ws flag (countsAfter base ws m lds schedule) t = Nat.count (fun u => flag u) t :=
  compactedIndex_eq hm (fun _ hk => countsAfter_slot hm1 lds hsched hrest hk) ht

end Schedule

theorem runStores_indexMapStores {idx : Nat → Nat} {n : Nat}
    (hidx : ∀ t < n, idx t = Nat.count (fun u => flag u) t) (mapLds : Nat → Nat)
    {order : List (Nat × Nat)} (horder : order.Perm (indexMapStores flag idx n))
    {t : Nat} (ht : t < n) (hf : flag t) : runStores mapLds order (idx t) = t := by
  have hnd : ((indexMapStores flag idx n).map Prod.fst).Nodup := by
    rw [indexMapStores, List.map_map, List.nodup_map_iff_inj_on ((List.nodup_range _).filter _)]
    intro a ha b hb hab
    simp only [List.mem_filter, List.mem_range] at ha hb
    simp only [Function.comp, hidx a ha.1, hidx b hb.1] at hab
    exact Nat.count_injective ha.2 hb.2 hab
  apply runStores_of_mem _ ((horder.map Prod.fst).nodup_iff.mpr hnd) (horder.mem_iff.mpr _)
  simp [indexMapStores, ht, hf]

/-- The cooperative compaction, for a count region at `base` whatever the other
regions receive: the slots hold the per-wave prefix sums, lane `waveCount` holds
the drawn total `D`, a drawn thread's index is the number of drawn threads below
it, and the index map written in any order sends `[0, D)` back to the drawn
threads, preserving their order. -/
theorem compaction_prefix_sum {m : Nat} (hm1 : 1 ≤ m) (hm : m ≤ ws.waveCountInSubgroup)
    (lds : Nat → Nat) {schedule rest : List AtomicAdd}
    (hsched : schedule.Perm (countOps base ws flag m ++ rest))
    (hrest : ∀ op ∈ rest, op.slot < base ∨ base + ws.waveCountInSubgroup < op.slot)
    (mapLds : Nat → Nat) {order : List (Nat × Nat)}
    (horder : order.Perm (indexMapStores flag
      (compactedIndex base ws flag (countsAfter base ws m lds schedule)) (m * ws.val))) :
    CompactionSpec base ws flag m (countsAfter base ws m lds schedule)
      (compactedIndex base ws flag (countsAfter base ws m lds schedule)) (runStores mapLds order) := by
  have hidx := fun t (ht : t < m * ws.val) => compactedIndex_rank hm1 lds hsched hrest hm ht
  have hD := countsAfter_total hm1 lds hsched hrest hm
  refine ⟨fun _ hk => countsAfter_slot hm1 lds hsched hrest hk, hD, fun t ht _ => hidx t ht,
    fun t ht hf => ?_, fun t u hu hft hfu htu => ?_, fun c hc => ?_,
    fun t ht hf => runStores_indexMapStores hidx mapLds horder ht hf⟩
  · rw [hidx t ht, hD]
    exact Nat.count_strict_mono hf ht
  · rw [hidx t (by omega), hidx u hu]
    exact Nat.count_strict_mono hft htu
  · obtain ⟨t, ht, hf, he⟩ := exists_count_eq (hD ▸ hc)
    exact ⟨t, ht, hf, by rw [hidx t ht, he]⟩

theorem compaction_prefix_sum_wave32 :
    (1 ≤ 1 ∧ 1 ≤ WaveSize.wave32.waveCountInSubgroup) ∧
      CompactionSpec 0 WaveSize.wave32 (fun t => t == 0) 1
        (countsAfter 0 WaveSize.wave32 1 (fun _ => 0) (countOps 0 WaveSize.wave32 (fun t => t == 0) 1))
        (compactedIndex 0 WaveSize.wave32 (fun t => t == 0)
          (countsAfter 0 WaveSize.wave32 1 (fun _ => 0) (countOps 0 WaveSize.wave32 (fun t => t == 0) 1)))
        (runStores (fun _ => 0) (indexMapStores (fun t => t == 0)
          (compactedIndex 0 WaveSize.wave32 (fun t => t == 0)
            (countsAfter 0 WaveSize.wave32 1 (fun _ => 0) (countOps 0 WaveSize.wave32 (fun t => t == 0) 1)))
          (1 * WaveSize.wave32.val))) :=
  ⟨⟨le_rfl, by decide⟩, compaction_prefix_sum le_rfl (by decide) (fun _ => 0)
    (List.Perm.of_eq (List.append_nil _).symm) (by simp) (fun _ => 0) (List.Perm.refl _)⟩

end NggPrimShader.Wave.Compaction
