import NggPrimShader.Basic
import Mathlib.Algebra.BigOperators.Group.Finset
import Mathlib.Data.List.FinRange
import Mathlib.Data.List.Nodup
import Mathlib.Logic.Function.Basic

/-! Transform-feedback reservations (`.prepareXfbExport` of `processSwXfb` and
`processSwXfbWithGs`). Thread 0 of each subgroup reads the GDS
`DWORDS_WRITTEN` counter of every active buffer, clamps each stream's primitive
count to the room its buffers have left, and adds what it will write. The first
read and the last add are ordered: the GDS runs them in ordered-wave-ID order,
and the last one passes the order on. Under every interleaving of the subgroups'
counter operations each subgroup sees the counters a serial run leaves, and a
serial run reserves contiguous dword ranges that hold every store. -/
namespace NggPrimShader.Xfb.Reservation

open NggPrimShader.Basic

instance : NeZero MaxTransformFeedbackBuffers := ⟨by decide⟩

abbrev BufferId := Fin MaxTransformFeedbackBuffers

abbrev StreamId := Fin MaxGsStreams

def u32 (x : Nat) : Nat := x % 2 ^ 32

def smax0 (x : Nat) : Nat := if x < 2 ^ 31 then x else 0

/-- One transform-feedback buffer as `.prepareXfbExport` reads it. -/
structure XfbBuffer where
  stride : Nat  -- `xfbStrides[i]` in bytes; the buffer is active when it is nonzero.
  -- `m_streamOutBufOffsets[i]`: `OFFSET[i]` of the stream-out control buffer, in dwords.
  bufferOffset : Nat
  numRecords : Nat  -- `NUM_RECORDS`, dword 2 of `m_streamOutBufDescs[i]`: the size in bytes.
  numRecords_lt : numRecords < 2 ^ 32

namespace XfbBuffer

def active (buf : XfbBuffer) : Bool := decide (0 < buf.stride)

def bufferSizeInDwords (buf : XfbBuffer) : Nat := buf.numRecords / 4

theorem bufferSizeInDwords_lt (buf : XfbBuffer) : buf.bufferSizeInDwords < 2 ^ 30 := by
  have := buf.numRecords_lt
  unfold bufferSizeInDwords
  omega

end XfbBuffer

structure XfbConfig where
  buffers : BufferId → XfbBuffer
  vertsPerPrim : Nat  -- `getVerticesPerPrimitive()`.
  -- `xfbBufferToStream`: the stream whose primitives a buffer records.
  bufferToStream : BufferId → StreamId

/-- The active buffers in increasing order, as both loops of `.prepareXfbExport`
visit them; the first and the last are `firstActiveXfbBuffer` and
`lastActiveXfbBuffer`. -/
def activeBuffers (cfg : XfbConfig) : List BufferId :=
  (List.finRange MaxTransformFeedbackBuffers).filter fun i => (cfg.buffers i).active

theorem activeBuffers_nodup (cfg : XfbConfig) : (activeBuffers cfg).Nodup :=
  (List.nodup_finRange _).filter _

@[simp] theorem mem_activeBuffers {cfg : XfbConfig} {i : BufferId} :
    i ∈ activeBuffers cfg ↔ (cfg.buffers i).active = true := by
  simp [activeBuffers]

def dwordsPerPrim (cfg : XfbConfig) (i : BufferId) : Nat :=
  cfg.vertsPerPrim * (cfg.buffers i).stride / 4

/-- `dwordsRemaining = smax(bufferSizeInDwords - (bufferOffset + dwordsWritten), 0)`. -/
def dwordsRemaining (buf : XfbBuffer) (dwordsWritten : Nat) : Nat :=
  smax0 (u32 (buf.bufferSizeInDwords + 2 ^ 32 - u32 (buf.bufferOffset + dwordsWritten)))

def primsCanWrite (cfg : XfbConfig) (i : BufferId) (dwordsWritten : Nat) : Nat :=
  dwordsRemaining (cfg.buffers i) dwordsWritten / dwordsPerPrim cfg i

def clampPrims (cfg : XfbConfig) (dwordsWritten : BufferId → Nat)
    (numPrimsToWrite : StreamId → Nat) (i : BufferId) : StreamId → Nat :=
  Function.update numPrimsToWrite (cfg.bufferToStream i)
    (min (numPrimsToWrite (cfg.bufferToStream i)) (primsCanWrite cfg i (dwordsWritten i)))

def dwordsToWrite (cfg : XfbConfig) (numPrimsToWrite : StreamId → Nat) (i : BufferId) : Nat :=
  u32 (numPrimsToWrite (cfg.bufferToStream i) * dwordsPerPrim cfg i)

/-- `.prepareXfbExport` of one subgroup with no other subgroup in between, from
counters `w`: the clamped counts and the counters after the second loop. -/
def reserve (cfg : XfbConfig) (primCount : StreamId → Nat) (w : BufferId → Nat) :
    (StreamId → Nat) × (BufferId → Nat) :=
  let n := (activeBuffers cfg).foldl (clampPrims cfg w) primCount
  (n, fun i => if (cfg.buffers i).active then u32 (w i + dwordsToWrite cfg n i) else w i)

def serialDwordsWritten (cfg : XfbConfig) (primCounts : Nat → StreamId → Nat)
    (W0 : BufferId → Nat) : Nat → BufferId → Nat
  | 0 => W0
  | k + 1 => (reserve cfg (primCounts k) (serialDwordsWritten cfg primCounts W0 k)).2

def processSwXfbConfig (buffers : BufferId → XfbBuffer) (vertsPerPrim : Nat) : XfbConfig :=
  ⟨buffers, vertsPerPrim, fun _ => 0⟩

def xfbBufferToStream (streamXfbBuffers : StreamId → Nat) (i : BufferId) : StreamId :=
  ((List.finRange MaxGsStreams).find? fun j => streamXfbBuffers j &&& 1 <<< i.val != 0).getD 0

def processSwXfbWithGsConfig (buffers : BufferId → XfbBuffer) (vertsPerPrim : Nat)
    (streamXfbBuffers : StreamId → Nat) : XfbConfig :=
  ⟨buffers, vertsPerPrim, xfbBufferToStream streamXfbBuffers⟩

/-- One operation on a `GDS_STRMOUT_DWORDS_WRITTEN` counter. -/
structure GdsOp where
  buffer : BufferId
  value : Nat
  ordered : Bool  -- `ds_ordered_add` (the first read and the last add), else `ds_add_gs_reg_rtn`.
  release : Bool  -- Wave release and wave done: the order passes to the next subgroup.

/-- Thread 0 in `.prepareXfbExport`: the counter operations issued so far and its
`dwordsWritten` and `numPrimsToWrite` arrays. -/
structure Thread0 where
  pc : Nat
  dwordsWritten : BufferId → Nat
  numPrimsToWrite : StreamId → Nat

def Thread0.init (primCount : StreamId → Nat) : Thread0 := ⟨0, fun _ => 0, primCount⟩

def Thread0.op (cfg : XfbConfig) (t : Thread0) : Option GdsOp :=
  let act := activeBuffers cfg
  if h : t.pc < act.length then some ⟨act[t.pc], 0, t.pc == 0, false⟩
  else if h' : t.pc < 2 * act.length then
    have : t.pc - act.length < act.length := by omega
    some ⟨act[t.pc - act.length], dwordsToWrite cfg t.numPrimsToWrite act[t.pc - act.length],
      t.pc + 1 == 2 * act.length, t.pc + 1 == 2 * act.length⟩
  else none

def Thread0.record (cfg : XfbConfig) (t : Thread0) (i : BufferId) (r : Nat) : Thread0 :=
  let dw := Function.update t.dwordsWritten i r
  ⟨t.pc + 1, dw,
    if t.pc < (activeBuffers cfg).length then clampPrims cfg dw t.numPrimsToWrite i
    else t.numPrimsToWrite⟩

structure Gds where
  dwordsWritten : BufferId → Nat  -- `GDS_STRMOUT_DWORDS_WRITTEN_i`.
  orderedCount : Nat  -- The ordered wave ID whose ordered operations the GDS runs.

/-- Subgroup `k` (ordered wave ID `k`) runs its next counter operation; an ordered
one waits for its turn. Every operation returns the counter's old value. -/
def gdsStep (cfg : XfbConfig) (k : Nat) (g : Gds) (t : Thread0) : Option (Gds × Thread0) :=
  (t.op cfg).bind fun op =>
    if op.ordered && g.orderedCount != k then none
    else
      let r := g.dwordsWritten op.buffer
      some (⟨Function.update g.dwordsWritten op.buffer (u32 (r + op.value)),
          if op.release then g.orderedCount + 1 else g.orderedCount⟩,
        t.record cfg op.buffer r)

structure Draw (N : Nat) where
  gds : Gds
  thread0 : Fin N → Thread0

def Draw.init {N : Nat} (primCounts : Nat → StreamId → Nat) (W0 : BufferId → Nat) : Draw N :=
  ⟨⟨W0, 0⟩, fun k => Thread0.init (primCounts k)⟩

def Draw.step {N : Nat} (cfg : XfbConfig) (d : Draw N) (k : Fin N) : Option (Draw N) :=
  (gdsStep cfg k d.gds (d.thread0 k)).map fun p => ⟨p.1, Function.update d.thread0 k p.2⟩

def runDraw {N : Nat} (cfg : XfbConfig) : Draw N → List (Fin N) → Option (Draw N)
  | d, [] => some d
  | d, k :: ks => (d.step cfg k).bind (runDraw cfg · ks)

/-- No subgroup can run an operation: the schedule cannot be extended. -/
def Draw.Halted {N : Nat} (cfg : XfbConfig) (d : Draw N) : Prop := ∀ k, d.step cfg k = none

instance {N : Nat} (cfg : XfbConfig) (d : Draw N) : Decidable (d.Halted cfg) :=
  decidable_of_iff (∀ k, (d.step cfg k).isNone) (by simp only [Option.isNone_iff_eq_none]; rfl)

def Draw.remaining {N : Nat} (cfg : XfbConfig) (d : Draw N) : Nat :=
  ∑ k, (2 * (activeBuffers cfg).length - (d.thread0 k).pc)

theorem Thread0.op_eq_none_iff {cfg : XfbConfig} {t : Thread0} :
    t.op cfg = none ↔ 2 * (activeBuffers cfg).length ≤ t.pc := by
  simp only [Thread0.op]
  split_ifs <;> simp only [reduceCtorEq, false_iff, true_iff, not_le] <;> omega

theorem gdsStep_pc {cfg : XfbConfig} {k : Nat} {g g' : Gds} {t t' : Thread0}
    (h : gdsStep cfg k g t = some (g', t')) : t.pc < 2 * (activeBuffers cfg).length ∧ t'.pc = t.pc + 1 := by
  obtain ⟨op, hop, h⟩ := Option.bind_eq_some.mp h
  refine ⟨Nat.lt_of_not_le fun hle => Option.some_ne_none op (hop.symm.trans (Thread0.op_eq_none_iff.mpr hle)),
    ?_⟩
  split at h <;> cases h
  rfl

theorem Draw.remaining_step {N : Nat} {cfg : XfbConfig} {d d' : Draw N} {k : Fin N}
    (h : d.step cfg k = some d') : d'.remaining cfg + 1 = d.remaining cfg := by
  obtain ⟨p, hp, rfl⟩ := Option.map_eq_some'.mp h
  obtain ⟨hlt, hpc⟩ := gdsStep_pc hp
  have hrest : ∑ k' ∈ Finset.univ.erase k,
      (2 * (activeBuffers cfg).length - (Function.update d.thread0 k p.2 k').pc) =
        ∑ k' ∈ Finset.univ.erase k, (2 * (activeBuffers cfg).length - (d.thread0 k').pc) :=
    Finset.sum_congr rfl fun k' hk' => by rw [Function.update_noteq (Finset.ne_of_mem_erase hk')]
  simp only [Draw.remaining]
  rw [← Finset.add_sum_erase _ _ (Finset.mem_univ k), ← Finset.add_sum_erase _ _ (Finset.mem_univ k),
    hrest, Function.update_same, hpc]
  omega

theorem Draw.exists_halted {N : Nat} (cfg : XfbConfig) (d : Draw N) :
    ∃ σ d', runDraw cfg d σ = some d' ∧ d'.Halted cfg := by
  obtain ⟨n, hn⟩ : ∃ n, d.remaining cfg = n := ⟨_, rfl⟩
  induction n using Nat.strong_induction_on generalizing d with
  | _ n ih =>
    by_cases hh : d.Halted cfg
    · exact ⟨[], d, rfl, hh⟩
    · obtain ⟨k, hk⟩ := not_forall.mp hh
      obtain ⟨d₁, h₁⟩ := Option.ne_none_iff_exists'.mp hk
      obtain ⟨σ, d', hrun, hh'⟩ := ih _ (by have := Draw.remaining_step h₁; omega) d₁ rfl
      exact ⟨k :: σ, d', by rw [runDraw, h₁]; exact hrun, hh'⟩

def partialRun (cfg : XfbConfig) (primCount : StreamId → Nat) (w : BufferId → Nat) (p : Nat) :
    (BufferId → Nat) × Thread0 :=
  let act := activeBuffers cfg
  let n := (act.take p).foldl (clampPrims cfg w) primCount
  (fun i => if i ∈ act.take (p - act.length) then u32 (w i + dwordsToWrite cfg n i) else w i,
    ⟨p, fun i => if i ∈ act.take p then w i else 0, n⟩)

theorem getElem_not_mem_take {α : Type} {l : List α} (hl : l.Nodup) {p : Nat} (hp : p < l.length) :
    l[p] ∉ l.take p := fun h => by
  obtain ⟨j, hj, hjp⟩ := List.mem_take_iff_getElem.mp h
  have := (hl.getElem_inj_iff).mp hjp
  omega

theorem take_succ_of_lt {α : Type} {l : List α} {p : Nat} (hp : p < l.length) :
    l.take (p + 1) = l.take p ++ [l[p]] := by
  rw [List.take_succ, List.getElem?_eq_getElem hp]
  rfl

theorem clampPrims_congr {cfg : XfbConfig} {dw w : BufferId → Nat} {i : BufferId} (h : dw i = w i)
    (n : StreamId → Nat) : clampPrims cfg dw n i = clampPrims cfg w n i := by
  simp [clampPrims, h]

section Alone

variable (cfg : XfbConfig) (primCount : StreamId → Nat) (w : BufferId → Nat)

theorem partialRun_zero : partialRun cfg primCount w 0 = (w, Thread0.init primCount) := by
  simp [partialRun, Thread0.init]

theorem partialRun_pc (p : Nat) : (partialRun cfg primCount w p).2.pc = p := rfl

theorem partialRun_full :
    (partialRun cfg primCount w (2 * (activeBuffers cfg).length)).1 = (reserve cfg primCount w).2 ∧
      (partialRun cfg primCount w (2 * (activeBuffers cfg).length)).2.numPrimsToWrite =
        (reserve cfg primCount w).1 := by
  have h1 : (activeBuffers cfg).take (2 * (activeBuffers cfg).length) = activeBuffers cfg :=
    List.take_of_length_le (by omega)
  have h2 : (activeBuffers cfg).take (2 * (activeBuffers cfg).length - (activeBuffers cfg).length) =
      activeBuffers cfg := List.take_of_length_le (by omega)
  refine ⟨funext fun i => ?_, ?_⟩ <;> simp [partialRun, reserve, h1, h2]

theorem partialRun_fst_of_le {p : Nat} (hp : p ≤ (activeBuffers cfg).length) :
    (partialRun cfg primCount w p).1 = w := by
  funext i
  simp [partialRun, Nat.sub_eq_zero_of_le hp]

theorem partialRun_op_of_lt {p : Nat} (hp : p < (activeBuffers cfg).length) :
    (partialRun cfg primCount w p).2.op cfg = some ⟨(activeBuffers cfg)[p], 0, p == 0, false⟩ := by
  simp [Thread0.op, partialRun_pc, hp]

theorem partialRun_snd_succ_of_lt {p : Nat} (hp : p < (activeBuffers cfg).length) :
    (partialRun cfg primCount w (p + 1)).2 =
      (partialRun cfg primCount w p).2.record cfg (activeBuffers cfg)[p] (w (activeBuffers cfg)[p]) := by
  have htake := take_succ_of_lt hp
  simp only [Thread0.record, partialRun_pc, hp, ↓reduceIte]
  simp only [partialRun, Thread0.mk.injEq, true_and]
  constructor
  · funext i
    rw [htake]
    by_cases hi : i = (activeBuffers cfg)[p]
    · subst hi
      simp only [Function.update_same, List.mem_append, List.mem_singleton, or_true, ↓reduceIte]
    · simp only [Function.update_noteq hi, List.mem_append, List.mem_singleton, hi, or_false]
  · rw [clampPrims_congr (Function.update_same _ _ _), htake, List.foldl_append]
    rfl

theorem partialRun_op_of_ge {q : Nat} (hq : q < (activeBuffers cfg).length) :
    (partialRun cfg primCount w ((activeBuffers cfg).length + q)).2.op cfg =
      some ⟨(activeBuffers cfg)[q],
        dwordsToWrite cfg ((activeBuffers cfg).foldl (clampPrims cfg w) primCount) (activeBuffers cfg)[q],
        (activeBuffers cfg).length + q + 1 == 2 * (activeBuffers cfg).length,
        (activeBuffers cfg).length + q + 1 == 2 * (activeBuffers cfg).length⟩ := by
  have htake : (activeBuffers cfg).take ((activeBuffers cfg).length + q) = activeBuffers cfg :=
    List.take_of_length_le (by omega)
  have h1 : ¬(activeBuffers cfg).length + q < (activeBuffers cfg).length := by omega
  have h2 : (activeBuffers cfg).length + q < 2 * (activeBuffers cfg).length := by omega
  simp [Thread0.op, partialRun_pc, h1, h2, partialRun, htake]

theorem partialRun_fst_apply_of_ge {q : Nat} (hq : q < (activeBuffers cfg).length) :
    (partialRun cfg primCount w ((activeBuffers cfg).length + q)).1 (activeBuffers cfg)[q] =
      w (activeBuffers cfg)[q] := by
  simp [partialRun, getElem_not_mem_take (activeBuffers_nodup cfg) hq]

theorem partialRun_fst_succ_of_ge {q : Nat} (hq : q < (activeBuffers cfg).length) :
    (partialRun cfg primCount w ((activeBuffers cfg).length + q + 1)).1 =
      Function.update (partialRun cfg primCount w ((activeBuffers cfg).length + q)).1
        (activeBuffers cfg)[q]
        (u32 (w (activeBuffers cfg)[q] +
          dwordsToWrite cfg ((activeBuffers cfg).foldl (clampPrims cfg w) primCount)
            (activeBuffers cfg)[q])) := by
  have htake : (activeBuffers cfg).take ((activeBuffers cfg).length + q) = activeBuffers cfg :=
    List.take_of_length_le (by omega)
  have htake' : (activeBuffers cfg).take ((activeBuffers cfg).length + q + 1) = activeBuffers cfg :=
    List.take_of_length_le (by omega)
  have hsub : (activeBuffers cfg).length + q + 1 - (activeBuffers cfg).length = q + 1 := by omega
  funext i
  simp only [partialRun, htake, htake', hsub, take_succ_of_lt hq, Nat.add_sub_cancel_left]
  by_cases hi : i = (activeBuffers cfg)[q]
  · subst hi
    simp only [Function.update_same, List.mem_append, List.mem_singleton, or_true, ↓reduceIte]
  · simp only [Function.update_noteq hi, List.mem_append, List.mem_singleton, hi, or_false]

theorem partialRun_snd_succ_of_ge {q : Nat} (hq : q < (activeBuffers cfg).length) :
    (partialRun cfg primCount w ((activeBuffers cfg).length + q + 1)).2 =
      (partialRun cfg primCount w ((activeBuffers cfg).length + q)).2.record cfg
        (activeBuffers cfg)[q] (w (activeBuffers cfg)[q]) := by
  have htake : (activeBuffers cfg).take ((activeBuffers cfg).length + q) = activeBuffers cfg :=
    List.take_of_length_le (by omega)
  have htake' : (activeBuffers cfg).take ((activeBuffers cfg).length + q + 1) = activeBuffers cfg :=
    List.take_of_length_le (by omega)
  have h1 : ¬(activeBuffers cfg).length + q < (activeBuffers cfg).length := by omega
  simp only [Thread0.record, partialRun_pc, h1, ↓reduceIte]
  simp only [partialRun, htake, htake', Thread0.mk.injEq, true_and, and_true]
  funext i
  by_cases hi : i = (activeBuffers cfg)[q]
  · subst hi; simp
  · simp [Function.update_noteq hi]

theorem gdsStep_partialRun (hw : ∀ i, w i < 2 ^ 32) {p : Nat} (hp : p < 2 * (activeBuffers cfg).length)
    (k : Nat) (g : Gds) (hg : g.dwordsWritten = (partialRun cfg primCount w p).1)
    (hk : g.orderedCount = k) :
    gdsStep cfg k g (partialRun cfg primCount w p).2 =
      some (⟨(partialRun cfg primCount w (p + 1)).1,
          if p + 1 = 2 * (activeBuffers cfg).length then k + 1 else k⟩,
        (partialRun cfg primCount w (p + 1)).2) := by
  by_cases h1 : p < (activeBuffers cfg).length
  · have hne : p + 1 ≠ 2 * (activeBuffers cfg).length := by omega
    have hr : g.dwordsWritten (activeBuffers cfg)[p] = w (activeBuffers cfg)[p] := by
      rw [hg, partialRun_fst_of_le cfg primCount w h1.le]
    have hwp : u32 (w (activeBuffers cfg)[p] + 0) = w (activeBuffers cfg)[p] :=
      Nat.mod_eq_of_lt (hw _)
    simp only [gdsStep, partialRun_op_of_lt cfg primCount w h1, Option.some_bind, hk,
      bne_self_eq_false, Bool.and_false, Bool.false_eq_true, ↓reduceIte, hr, hwp, hne,
      partialRun_snd_succ_of_lt cfg primCount w h1, partialRun_fst_of_le cfg primCount w h1,
      hg, partialRun_fst_of_le cfg primCount w h1.le, Function.update_eq_self]
  · obtain ⟨q, rfl⟩ : ∃ q, p = (activeBuffers cfg).length + q := ⟨p - (activeBuffers cfg).length, by omega⟩
    have hq : q < (activeBuffers cfg).length := by omega
    have hrel : ((activeBuffers cfg).length + q + 1 == 2 * (activeBuffers cfg).length) =
        decide ((activeBuffers cfg).length + q + 1 = 2 * (activeBuffers cfg).length) := rfl
    simp only [gdsStep, partialRun_op_of_ge cfg primCount w hq, Option.some_bind, hk,
      bne_self_eq_false, Bool.and_false, Bool.false_eq_true, ↓reduceIte, hrel, decide_eq_true_eq, hg,
      partialRun_fst_apply_of_ge cfg primCount w hq, partialRun_snd_succ_of_ge cfg primCount w hq,
      partialRun_fst_succ_of_ge cfg primCount w hq]

end Alone

theorem Thread0.init_op (cfg : XfbConfig) (primCount : StreamId → Nat)
    (hlen : 0 < (activeBuffers cfg).length) :
    (Thread0.init primCount).op cfg = some ⟨(activeBuffers cfg)[0], 0, true, false⟩ := by
  have := partialRun_op_of_lt cfg primCount (fun _ => 0) hlen
  rwa [partialRun_zero] at this

theorem partialRun_op_full (cfg : XfbConfig) (primCount : StreamId → Nat) (w : BufferId → Nat) :
    (partialRun cfg primCount w (2 * (activeBuffers cfg).length)).2.op cfg = none := by
  simp [Thread0.op, partialRun_pc]
  omega

theorem serialDwordsWritten_lt (cfg : XfbConfig) (primCounts : Nat → StreamId → Nat)
    {W0 : BufferId → Nat} (hW0 : ∀ i, W0 i < 2 ^ 32) :
    ∀ k i, serialDwordsWritten cfg primCounts W0 k i < 2 ^ 32
  | 0, i => hW0 i
  | k + 1, i => by
    simp only [serialDwordsWritten, reserve]
    split
    · exact Nat.mod_lt _ (by norm_num)
    · exact serialDwordsWritten_lt cfg primCounts hW0 k i

section Draw

variable (cfg : XfbConfig) (primCounts : Nat → StreamId → Nat) (W0 : BufferId → Nat)

/-- The ordered count `m` names the subgroup inside `.prepareXfbExport`. Every
earlier subgroup has finished as it would alone from the serial counters; every
later one has not started; subgroup `m` and the counters are where `p` of its
operations, run alone from the serial counters, leave them. -/
structure DrawInv {N : Nat} (d : Draw N) : Prop where
  orderedCount_le : d.gds.orderedCount ≤ N
  finished : ∀ k : Fin N, k.val < d.gds.orderedCount →
    d.thread0 k = (partialRun cfg (primCounts k) (serialDwordsWritten cfg primCounts W0 k)
      (2 * (activeBuffers cfg).length)).2
  waiting : ∀ k : Fin N, d.gds.orderedCount < k.val → d.thread0 k = Thread0.init (primCounts k)
  current : ∃ p < 2 * (activeBuffers cfg).length,
    d.gds.dwordsWritten = (partialRun cfg (primCounts d.gds.orderedCount)
      (serialDwordsWritten cfg primCounts W0 d.gds.orderedCount) p).1 ∧
    ∀ k : Fin N, k.val = d.gds.orderedCount →
      d.thread0 k = (partialRun cfg (primCounts k) (serialDwordsWritten cfg primCounts W0 k) p).2

variable {cfg primCounts W0}

theorem DrawInv.init {N : Nat} (hact : activeBuffers cfg ≠ []) :
    DrawInv cfg primCounts W0 (Draw.init (N := N) primCounts W0) := by
  have hlen : 0 < (activeBuffers cfg).length := List.length_pos.mpr hact
  refine ⟨Nat.zero_le _, fun k hk => absurd hk (Nat.not_lt_zero _), fun k _ => rfl,
    ⟨0, by omega, ?_, fun k hk => ?_⟩⟩
  · simp [Draw.init, partialRun_zero, serialDwordsWritten]
  · simp only [Draw.init] at hk ⊢
    rw [hk, partialRun_zero]

theorem DrawInv.step (hact : activeBuffers cfg ≠ []) (hW0 : ∀ i, W0 i < 2 ^ 32) {N : Nat}
    {d d' : Draw N} (hd : DrawInv cfg primCounts W0 d) {k : Fin N} (h : d.step cfg k = some d') :
    DrawInv cfg primCounts W0 d' := by
  have hlen : 0 < (activeBuffers cfg).length := List.length_pos.mpr hact
  obtain ⟨p, hp, hg, hcur⟩ := hd.current
  set m := d.gds.orderedCount with hm
  rcases lt_trichotomy k.val m with hk | hk | hk
  · rw [Draw.step, hd.finished k hk, gdsStep, partialRun_op_full] at h
    cases h
  · rw [Draw.step, hcur k hk, gdsStep_partialRun cfg (primCounts k)
      (serialDwordsWritten cfg primCounts W0 k) (serialDwordsWritten_lt cfg primCounts hW0 k) hp k
      d.gds (by rw [hg, hk]) hk.symm, Option.map_some'] at h
    cases h
    by_cases hend : p + 1 = 2 * (activeBuffers cfg).length
    · -- the last add: the order passes to `m + 1`
      simp only [hend, ↓reduceIte]
      refine ⟨?_, fun k' hk' => ?_, fun k' hk' => ?_, ⟨0, by omega, ?_, fun k' hk' => ?_⟩⟩
      · dsimp only
        omega
      · dsimp only at hk' ⊢
        by_cases hkk : k' = k
        · subst hkk; simp [hend]
        · rw [Function.update_noteq hkk]
          exact hd.finished k' (by have := Fin.val_ne_of_ne hkk; omega)
      · dsimp only at hk' ⊢
        rw [Function.update_noteq (fun e => by subst e; omega)]
        exact hd.waiting k' (by omega)
      · dsimp only
        rw [partialRun_zero, (partialRun_full cfg _ _).1]
        rfl
      · dsimp only at hk' ⊢
        rw [Function.update_noteq (fun e => by subst e; omega), hd.waiting k' (by omega),
          partialRun_zero]
    · simp only [hend, ↓reduceIte]
      refine ⟨?_, fun k' hk' => ?_, fun k' hk' => ?_, ⟨p + 1, by omega, ?_, fun k' hk' => ?_⟩⟩
      · exact hk ▸ hd.orderedCount_le
      · dsimp only at hk' ⊢
        rw [Function.update_noteq (fun e => by subst e; omega)]
        exact hd.finished k' (by omega)
      · dsimp only at hk' ⊢
        rw [Function.update_noteq (fun e => by subst e; omega)]
        exact hd.waiting k' (by omega)
      · rfl
      · dsimp only at hk' ⊢
        obtain rfl : k' = k := Fin.ext hk'
        simp
  · rw [Draw.step, hd.waiting k hk, gdsStep, Thread0.init_op cfg _ hlen] at h
    simp [show m ≠ k.val by omega] at h

theorem DrawInv.run (hact : activeBuffers cfg ≠ []) (hW0 : ∀ i, W0 i < 2 ^ 32) {N : Nat} :
    ∀ (σ : List (Fin N)) {d d' : Draw N}, DrawInv cfg primCounts W0 d → runDraw cfg d σ = some d' →
      DrawInv cfg primCounts W0 d'
  | [], _, _, hd, h => by cases h; exact hd
  | k :: σ, d, d', hd, h => by
    obtain ⟨d₁, h₁, h₂⟩ := Option.bind_eq_some.mp h
    exact DrawInv.run hact hW0 σ (hd.step hact hW0 h₁) h₂

theorem DrawInv.progress (hW0 : ∀ i, W0 i < 2 ^ 32) {N : Nat} {d : Draw N}
    (hd : DrawInv cfg primCounts W0 d) (hm : d.gds.orderedCount < N) :
    ∃ d', d.step cfg ⟨d.gds.orderedCount, hm⟩ = some d' := by
  obtain ⟨p, hp, hg, hcur⟩ := hd.current
  rw [Draw.step, hcur ⟨_, hm⟩ rfl,
    gdsStep_partialRun cfg _ _ (serialDwordsWritten_lt cfg primCounts hW0 _) hp _ d.gds hg rfl]
  exact ⟨_, rfl⟩

theorem DrawInv.done_of_halted (hW0 : ∀ i, W0 i < 2 ^ 32) {N : Nat} {d : Draw N}
    (hd : DrawInv cfg primCounts W0 d) (hh : d.Halted cfg) (k : Fin N) :
    (d.thread0 k).pc = 2 * (activeBuffers cfg).length := by
  have hN : N ≤ d.gds.orderedCount := Nat.le_of_not_lt fun hm => by
    obtain ⟨d', hd'⟩ := hd.progress hW0 hm
    exact Option.some_ne_none d' (hd'.symm.trans (hh ⟨_, hm⟩))
  rw [hd.finished k (by omega), partialRun_pc]

theorem halted_done (hact : activeBuffers cfg ≠ []) (hW0 : ∀ i, W0 i < 2 ^ 32) {N : Nat}
    (σ : List (Fin N)) {d : Draw N} (hrun : runDraw cfg (Draw.init primCounts W0) σ = some d)
    (hh : d.Halted cfg) (k : Fin N) : (d.thread0 k).pc = 2 * (activeBuffers cfg).length :=
  (DrawInv.run hact hW0 σ (DrawInv.init hact) hrun).done_of_halted hW0 hh k

theorem DrawInv.finished_of_done (hact : activeBuffers cfg ≠ []) {N : Nat} {d : Draw N}
    (hd : DrawInv cfg primCounts W0 d) {k : Fin N}
    (hdone : (d.thread0 k).pc = 2 * (activeBuffers cfg).length) :
    d.thread0 k = (partialRun cfg (primCounts k) (serialDwordsWritten cfg primCounts W0 k)
      (2 * (activeBuffers cfg).length)).2 := by
  have hlen : 0 < (activeBuffers cfg).length := List.length_pos.mpr hact
  obtain ⟨p, hp, -, hcur⟩ := hd.current
  rcases lt_trichotomy k.val d.gds.orderedCount with hk | hk | hk
  · exact hd.finished k hk
  · rw [hcur k hk, partialRun_pc] at hdone
    omega
  · rw [hd.waiting k hk] at hdone
    exact absurd hdone (show ¬0 = _ by omega)

theorem finished_thread0 (hact : activeBuffers cfg ≠ []) (hW0 : ∀ i, W0 i < 2 ^ 32) {N : Nat}
    (σ : List (Fin N)) {d : Draw N} (hrun : runDraw cfg (Draw.init primCounts W0) σ = some d) {k : Fin N}
    (hdone : (d.thread0 k).pc = 2 * (activeBuffers cfg).length) :
    (∀ i ∈ activeBuffers cfg, (d.thread0 k).dwordsWritten i = serialDwordsWritten cfg primCounts W0 k i) ∧
      (d.thread0 k).numPrimsToWrite = (reserve cfg (primCounts k) (serialDwordsWritten cfg primCounts W0 k)).1 := by
  have ht0 := (DrawInv.run hact hW0 σ (DrawInv.init hact) hrun).finished_of_done hact hdone
  refine ⟨fun i hi => ?_, by rw [ht0]; exact (partialRun_full cfg _ _).2⟩
  rw [ht0]
  simp [partialRun, List.take_of_length_le (by omega : (activeBuffers cfg).length ≤
    2 * (activeBuffers cfg).length), mem_activeBuffers.mp hi]

end Draw

/-- `⌊max(0, bufferSizeInDwords − bufferOffset − w) / dwordsPerPrim⌋`: the
primitives buffer `i` still has room for. -/
def primsFit (cfg : XfbConfig) (i : BufferId) (w : Nat) : Nat :=
  ((cfg.buffers i).bufferSizeInDwords - ((cfg.buffers i).bufferOffset + w)) / dwordsPerPrim cfg i

def clampedPrims (cfg : XfbConfig) (primCount : StreamId → Nat) (w : BufferId → Nat)
    (s : StreamId) : Nat :=
  ((activeBuffers cfg).filter fun i => cfg.bufferToStream i = s).foldl
    (fun n i => min n (primsFit cfg i (w i))) (primCount s)

theorem primsCanWrite_eq_primsFit {cfg : XfbConfig} {i : BufferId} {w : Nat}
    (h : (cfg.buffers i).bufferOffset + w < 2 ^ 31) : primsCanWrite cfg i w = primsFit cfg i w := by
  have := (cfg.buffers i).bufferSizeInDwords_lt
  unfold primsCanWrite primsFit dwordsRemaining smax0 u32
  congr 1
  split_ifs <;> omega

section FoldMin

variable {f g : BufferId → Nat}

theorem foldl_min_le_init (l : List BufferId) (a : Nat) :
    l.foldl (fun n i => min n (f i)) a ≤ a := by
  induction l generalizing a with
  | nil => exact le_rfl
  | cons i l ih => exact (ih _).trans (min_le_left _ _)

theorem foldl_min_le {l : List BufferId} {i : BufferId} (hi : i ∈ l) (a : Nat) :
    l.foldl (fun n i => min n (f i)) a ≤ f i := by
  induction l generalizing a with
  | nil => cases hi
  | cons j l ih =>
    rcases List.mem_cons.mp hi with rfl | hi
    · exact (foldl_min_le_init l _).trans (min_le_right _ _)
    · exact ih hi _

theorem foldl_min_congr {l : List BufferId} (h : ∀ i ∈ l, f i = g i) (a : Nat) :
    l.foldl (fun n i => min n (f i)) a = l.foldl (fun n i => min n (g i)) a := by
  induction l generalizing a with
  | nil => rfl
  | cons j l ih =>
    simp only [List.foldl_cons, h j (List.mem_cons_self _ _)]
    exact ih (fun i hi => h i (List.mem_cons_of_mem _ hi)) _

theorem foldl_min_eq_or (l : List BufferId) (b : Nat) :
    l.foldl (fun n i => min n (f i)) b = b ∨ ∃ i ∈ l, l.foldl (fun n i => min n (f i)) b = f i := by
  induction l generalizing b with
  | nil => exact Or.inl rfl
  | cons j l ih =>
    rw [List.foldl_cons]
    rcases ih (min b (f j)) with h | ⟨i, hi, h⟩
    · rw [h]
      rcases min_choice b (f j) with h' | h'
      · exact Or.inl h'
      · exact Or.inr ⟨j, List.mem_cons_self _ _, h'⟩
    · exact Or.inr ⟨i, List.mem_cons_of_mem _ hi, h⟩

end FoldMin

theorem foldl_clampPrims_apply (cfg : XfbConfig) (w : BufferId → Nat) (s : StreamId) :
    ∀ (l : List BufferId) (n : StreamId → Nat), l.foldl (clampPrims cfg w) n s =
      (l.filter fun i => cfg.bufferToStream i = s).foldl
        (fun m i => min m (primsCanWrite cfg i (w i))) (n s)
  | [], _ => rfl
  | i :: l, n => by
    rw [List.foldl_cons, foldl_clampPrims_apply cfg w s l, List.filter_cons]
    by_cases hs : cfg.bufferToStream i = s
    · subst hs; simp [clampPrims]
    · simp [clampPrims, hs, Function.update_noteq (Ne.symm hs)]

section Exact

variable {cfg : XfbConfig} {primCount : StreamId → Nat} {w : BufferId → Nat}

def CountersInRange (cfg : XfbConfig) (w : BufferId → Nat) : Prop :=
  ∀ i, (cfg.buffers i).bufferOffset + w i < 2 ^ 31

theorem reserve_fst_eq (hw : CountersInRange cfg w) (s : StreamId) :
    (reserve cfg primCount w).1 s = clampedPrims cfg primCount w s := by
  simp only [reserve, foldl_clampPrims_apply, clampedPrims]
  exact foldl_min_congr (fun i _ => primsCanWrite_eq_primsFit (hw i)) _

theorem reserve_fst_le_primsFit (hw : CountersInRange cfg w) {i : BufferId}
    (hi : i ∈ activeBuffers cfg) :
    (reserve cfg primCount w).1 (cfg.bufferToStream i) ≤ primsFit cfg i (w i) := by
  rw [reserve_fst_eq hw]
  exact foldl_min_le (List.mem_filter.mpr ⟨hi, by simp⟩) _

theorem mul_le_of_le_div {n x d : Nat} (h : n ≤ x / d) : n * d ≤ x := by
  rcases Nat.eq_zero_or_pos d with rfl | hd
  · simp
  · exact (Nat.le_div_iff_mul_le hd).mp h

theorem reserve_room_le (hw : CountersInRange cfg w) {i : BufferId} (hi : i ∈ activeBuffers cfg) :
    (reserve cfg primCount w).1 (cfg.bufferToStream i) * dwordsPerPrim cfg i ≤
      (cfg.buffers i).bufferSizeInDwords - ((cfg.buffers i).bufferOffset + w i) :=
  mul_le_of_le_div (reserve_fst_le_primsFit hw hi)

theorem reserve_snd_eq (hw : CountersInRange cfg w) {i : BufferId} (hi : i ∈ activeBuffers cfg) :
    (reserve cfg primCount w).2 i =
      w i + (reserve cfg primCount w).1 (cfg.bufferToStream i) * dwordsPerPrim cfg i := by
  have hroom := @reserve_room_le cfg primCount w hw i hi
  have hsize := (cfg.buffers i).bufferSizeInDwords_lt
  have hwi := hw i
  have hact : (cfg.buffers i).active = true := mem_activeBuffers.mp hi
  simp only [reserve, hact, ↓reduceIte, dwordsToWrite, u32] at hroom ⊢
  rw [Nat.mod_eq_of_lt (by omega : _ < 2 ^ 32), Nat.mod_eq_of_lt (by omega)]

theorem reserve_snd_of_not_mem {i : BufferId} (hi : i ∉ activeBuffers cfg) :
    (reserve cfg primCount w).2 i = w i := by
  simp [reserve, mem_activeBuffers.not.mp hi]

theorem reserve_within (hw : CountersInRange cfg w) (i : BufferId)
    (hin : (cfg.buffers i).bufferOffset + w i ≤ (cfg.buffers i).bufferSizeInDwords) :
    (cfg.buffers i).bufferOffset + (reserve cfg primCount w).2 i ≤
      (cfg.buffers i).bufferSizeInDwords := by
  by_cases hi : i ∈ activeBuffers cfg
  · rw [reserve_snd_eq hw hi]
    have := @reserve_room_le cfg primCount w hw i hi
    omega
  · rwa [reserve_snd_of_not_mem hi]

theorem reserve_mono (hw : CountersInRange cfg w) (i : BufferId) : w i ≤ (reserve cfg primCount w).2 i := by
  by_cases hi : i ∈ activeBuffers cfg
  · rw [reserve_snd_eq hw hi]
    exact Nat.le_add_right _ _
  · rw [reserve_snd_of_not_mem hi]

theorem reserve_inRange (hw : CountersInRange cfg w) : CountersInRange cfg (reserve cfg primCount w).2 := by
  intro i
  by_cases hi : i ∈ activeBuffers cfg
  · have := (cfg.buffers i).bufferSizeInDwords_lt
    have := @reserve_room_le cfg primCount w hw i hi
    have := hw i
    rw [reserve_snd_eq hw hi]
    omega
  · rw [reserve_snd_of_not_mem hi]
    exact hw i

end Exact

theorem serialDwordsWritten_inRange (cfg : XfbConfig) (primCounts : Nat → StreamId → Nat)
    {W0 : BufferId → Nat} (hW0 : CountersInRange cfg W0) :
    ∀ k, CountersInRange cfg (serialDwordsWritten cfg primCounts W0 k)
  | 0 => hW0
  | k + 1 => reserve_inRange (serialDwordsWritten_inRange cfg primCounts hW0 k)

theorem serialDwordsWritten_mono (cfg : XfbConfig) (primCounts : Nat → StreamId → Nat)
    {W0 : BufferId → Nat} (hW0 : CountersInRange cfg W0) (i : BufferId) {k k' : Nat} (h : k ≤ k') :
    serialDwordsWritten cfg primCounts W0 k i ≤ serialDwordsWritten cfg primCounts W0 k' i := by
  induction h with
  | refl => exact le_rfl
  | step _ ih => exact ih.trans (reserve_mono (serialDwordsWritten_inRange cfg primCounts hW0 _) i)

structure XfbOutputExport where
  xfbBuffer : BufferId
  xfbOffset : Nat  -- Byte offset of the output in a vertex's record.
  numElements : Nat
  is16bit : Bool
  streamId : StreamId  -- `locInfo.streamId`; 0 without API GS.
  -- `locInfo.loc`: the output's location in its stream's GS-VS ring item,
  -- read only with API GS.
  loc : Nat
  numElements_pos : 0 < numElements  -- The export's format switch takes 1 to 4 elements.

def XfbOutputExport.byteSize (o : XfbOutputExport) : Nat :=
  o.numElements * (if o.is16bit then 2 else 4)

def XfbOutputExport.elementBytes (o : XfbOutputExport) : Nat := if o.is16bit then 2 else 4

def XfbOutputExport.convert (o : XfbOutputExport) (value : List Nat) : List Nat :=
  if o.is16bit then value.map (· % 2 ^ 16) else value

/-- Where in its buffer lane `t` stores output `o` of vertex `v` of its
primitive: `soffset = (bufferOffset + dwordsWritten) << 2` plus
`offset = (threadIdInSubgroup * vertsPerPrim + v) * xfbStride + xfbOffset`, each
in a 32-bit register. -/
def xfbStoreOffset (cfg : XfbConfig) (o : XfbOutputExport) (dwordsWritten t v : Nat) : Nat :=
  u32 (u32 ((cfg.buffers o.xfbBuffer).bufferOffset + dwordsWritten) * 4) +
    u32 (u32 (u32 (u32 (t * cfg.vertsPerPrim) + v) * (cfg.buffers o.xfbBuffer).stride) + o.xfbOffset)

theorem lane_record_le {S V d n t v : Nat} (h4d : V * S = 4 * d) (ht : t < n) (hv : v < V) :
    (t * V + v) * S + S ≤ 4 * (n * d) := by
  have h1 : t * V + v + 1 ≤ n * V :=
    calc t * V + v + 1 ≤ (t + 1) * V := by rw [Nat.succ_mul]; omega
      _ ≤ n * V := Nat.mul_le_mul_right _ ht
  calc (t * V + v) * S + S = (t * V + v + 1) * S := by ring
    _ ≤ n * V * S := Nat.mul_le_mul_right _ h1
    _ = 4 * (n * d) := by rw [Nat.mul_assoc, h4d]; ring

theorem store_offset_eq {O W size S V d n t v off : Nat} (hS : 0 < S) (h4d : V * S = 4 * d)
    (hoff : off ≤ S) (hsize : size < 2 ^ 30) (hroom : n * d ≤ size - (O + W)) (ht : t < n) (hv : v < V) :
    u32 (u32 (O + W) * 4) + u32 (u32 (u32 (u32 (t * V) + v) * S) + off) =
      4 * (O + W) + ((t * V + v) * S + off) := by
  have hlane := lane_record_le h4d ht hv
  have htv : t * V + v ≤ (t * V + v) * S := Nat.le_mul_of_pos_right _ hS
  have hd : 0 < n * d := Nat.mul_pos (by omega) (by
    have : 0 < V * S := Nat.mul_pos (by omega) hS
    omega)
  unfold u32
  rw [Nat.mod_eq_of_lt (by omega : t * V < 2 ^ 32), Nat.mod_eq_of_lt (by omega : t * V + v < 2 ^ 32),
    Nat.mod_eq_of_lt (by omega : (t * V + v) * S < 2 ^ 32)]
  generalize (t * V + v) * S = A at *
  omega

theorem store_offset_bounds {O W size S V d n t v off bytes : Nat} (hS : 0 < S) (h4d : V * S = 4 * d)
    (hfit : off + bytes ≤ S) (hsize : size < 2 ^ 30) (hroom : n * d ≤ size - (O + W)) (ht : t < n)
    (hv : v < V) :
    4 * (O + W) ≤ u32 (u32 (O + W) * 4) + u32 (u32 (u32 (u32 (t * V) + v) * S) + off) ∧
      u32 (u32 (O + W) * 4) + u32 (u32 (u32 (u32 (t * V) + v) * S) + off) + bytes ≤
        4 * (O + W + n * d) := by
  have hlane := lane_record_le h4d ht hv
  rw [store_offset_eq hS h4d (by omega) hsize hroom ht hv]
  omega

theorem XfbOutputExport.xfbOffset_lt {o : XfbOutputExport} {S : Nat} (hfit : o.xfbOffset + o.byteSize ≤ S) :
    o.xfbOffset < S := by
  have := o.numElements_pos
  unfold XfbOutputExport.byteSize at hfit
  split at hfit <;> omega

theorem vertsPerPrim_mul_stride {cfg : XfbConfig} {i : BufferId} (hstride : (cfg.buffers i).stride % 4 = 0) :
    cfg.vertsPerPrim * (cfg.buffers i).stride = 4 * dwordsPerPrim cfg i :=
  (Nat.mul_div_cancel' (Dvd.dvd.mul_left (Nat.dvd_of_mod_eq_zero hstride) _)).symm

section StoreOffset

variable {cfg : XfbConfig} {o : XfbOutputExport} {W n t v : Nat}
  (hstride : (cfg.buffers o.xfbBuffer).stride % 4 = 0)
  (hfit : o.xfbOffset + o.byteSize ≤ (cfg.buffers o.xfbBuffer).stride)
  (hroom : n * dwordsPerPrim cfg o.xfbBuffer ≤
    (cfg.buffers o.xfbBuffer).bufferSizeInDwords - ((cfg.buffers o.xfbBuffer).bufferOffset + W))
  (ht : t < n) (hv : v < cfg.vertsPerPrim)
include hstride hfit hroom ht hv

theorem xfbStoreOffset_eq :
    xfbStoreOffset cfg o W t v = 4 * ((cfg.buffers o.xfbBuffer).bufferOffset + W) +
      ((t * cfg.vertsPerPrim + v) * (cfg.buffers o.xfbBuffer).stride + o.xfbOffset) :=
  store_offset_eq (Nat.zero_lt_of_lt (XfbOutputExport.xfbOffset_lt hfit)) (vertsPerPrim_mul_stride hstride)
    (XfbOutputExport.xfbOffset_lt hfit).le (cfg.buffers o.xfbBuffer).bufferSizeInDwords_lt hroom ht hv

theorem xfbStoreOffset_bounds :
    4 * ((cfg.buffers o.xfbBuffer).bufferOffset + W) ≤ xfbStoreOffset cfg o W t v ∧
      xfbStoreOffset cfg o W t v + o.byteSize ≤
        4 * ((cfg.buffers o.xfbBuffer).bufferOffset + W + n * dwordsPerPrim cfg o.xfbBuffer) :=
  store_offset_bounds (Nat.zero_lt_of_lt (XfbOutputExport.xfbOffset_lt hfit)) (vertsPerPrim_mul_stride hstride)
    hfit (cfg.buffers o.xfbBuffer).bufferSizeInDwords_lt hroom ht hv

end StoreOffset

/-- What subgroup `k` reserved and where its lanes store, against the counters
the serial run leaves before it. -/
structure ReservesSerially (cfg : XfbConfig) (primCounts : Nat → StreamId → Nat) (W0 : BufferId → Nat)
    (outputs : List XfbOutputExport) (t0 : Thread0) (k : Nat) : Prop where
  -- The counter values thread 0 got back (and stored to `XfbStats`).
  sees_serial : ∀ i ∈ activeBuffers cfg,
    t0.dwordsWritten i = serialDwordsWritten cfg primCounts W0 k i
  clamped : ∀ s, t0.numPrimsToWrite s =
    clampedPrims cfg (primCounts k) (serialDwordsWritten cfg primCounts W0 k) s
  -- The next subgroup starts where this range ends, and every buffer of a
  -- stream advances by that stream's count.
  contiguous : ∀ i ∈ activeBuffers cfg, serialDwordsWritten cfg primCounts W0 (k + 1) i =
    serialDwordsWritten cfg primCounts W0 k i + t0.numPrimsToWrite (cfg.bufferToStream i) * dwordsPerPrim cfg i
  disjoint : ∀ i k', k < k' →
    serialDwordsWritten cfg primCounts W0 (k + 1) i ≤ serialDwordsWritten cfg primCounts W0 k' i
  within : ∀ i, (cfg.buffers i).bufferOffset + serialDwordsWritten cfg primCounts W0 k i ≤
      (cfg.buffers i).bufferSizeInDwords →
    (cfg.buffers i).bufferOffset + serialDwordsWritten cfg primCounts W0 (k + 1) i ≤
      (cfg.buffers i).bufferSizeInDwords
  stores_inside : ∀ o ∈ outputs, ∀ t < t0.numPrimsToWrite o.streamId, ∀ v < cfg.vertsPerPrim,
    4 * ((cfg.buffers o.xfbBuffer).bufferOffset + serialDwordsWritten cfg primCounts W0 k o.xfbBuffer) ≤
        xfbStoreOffset cfg o (t0.dwordsWritten o.xfbBuffer) t v ∧
      xfbStoreOffset cfg o (t0.dwordsWritten o.xfbBuffer) t v + o.byteSize ≤
        4 * ((cfg.buffers o.xfbBuffer).bufferOffset + serialDwordsWritten cfg primCounts W0 k o.xfbBuffer +
          t0.numPrimsToWrite o.streamId * dwordsPerPrim cfg o.xfbBuffer)

/-- Every schedule of the subgroups' counter operations extends to one after
which no subgroup can move; then every thread 0 has run all of its operations,
and each that has reserved as it would have in the serial run. -/
theorem xfb_reservations_serialized (cfg : XfbConfig) (primCounts : Nat → StreamId → Nat)
    (W0 : BufferId → Nat) (outputs : List XfbOutputExport) (hact : activeBuffers cfg ≠ [])
    (hstride : ∀ i, (cfg.buffers i).stride % 4 = 0)
    (houtputs : ∀ o ∈ outputs, o.xfbOffset + o.byteSize ≤ (cfg.buffers o.xfbBuffer).stride ∧
      cfg.bufferToStream o.xfbBuffer = o.streamId)
    (hW0 : CountersInRange cfg W0) {N : Nat} (σ : List (Fin N)) {d : Draw N}
    (hrun : runDraw cfg (Draw.init primCounts W0) σ = some d) :
    (∃ σ' d', runDraw cfg d σ' = some d' ∧ d'.Halted cfg) ∧
      (d.Halted cfg → ∀ k, (d.thread0 k).pc = 2 * (activeBuffers cfg).length) ∧
      ∀ k, (d.thread0 k).pc = 2 * (activeBuffers cfg).length →
        ReservesSerially cfg primCounts W0 outputs (d.thread0 k) k := by
  have hW0' : ∀ i, W0 i < 2 ^ 32 := fun i => by have := hW0 i; omega
  refine ⟨Draw.exists_halted cfg d, halted_done hact hW0' σ hrun, fun k hdone => ?_⟩
  obtain ⟨hdw, hn⟩ := finished_thread0 hact hW0' σ hrun hdone
  have hWr := serialDwordsWritten_inRange cfg primCounts hW0 k
  refine ⟨hdw, fun s => hn ▸ reserve_fst_eq hWr s, fun i hi => hn ▸ reserve_snd_eq hWr hi,
    fun i k' hk' => serialDwordsWritten_mono cfg primCounts hW0 i hk', fun i => reserve_within hWr i,
    fun o ho t ht v hv => ?_⟩
  obtain ⟨hfit, hstream⟩ := houtputs o ho
  have hb : o.xfbBuffer ∈ activeBuffers cfg := by
    simpa [XfbBuffer.active] using Nat.zero_lt_of_lt (XfbOutputExport.xfbOffset_lt hfit)
  have hroom := @reserve_room_le cfg (primCounts k) _ hWr _ hb
  rw [hstream, ← hn] at hroom
  rw [hdw _ hb]
  exact xfbStoreOffset_bounds (hstride _) hfit hroom ht hv

def oneBufferConfig : XfbConfig :=
  ⟨fun i => if i.val = 0 then ⟨12, 0, 128, by decide⟩ else ⟨0, 0, 0, by decide⟩, 3, fun _ => 0⟩

def vec3Output : XfbOutputExport := ⟨0, 0, 3, false, 0, 0, by decide⟩

def twoSubgroupDraw : Draw 2 :=
  (runDraw oneBufferConfig (Draw.init (fun _ _ => 2) fun _ => 0) [0, 0, 1, 1]).getD
    (Draw.init (fun _ _ => 2) fun _ => 0)

theorem xfb_reservations_serialized_twoSubgroups :
    twoSubgroupDraw.Halted oneBufferConfig ∧ (twoSubgroupDraw.thread0 1).dwordsWritten 0 = 18 ∧
      (twoSubgroupDraw.thread0 1).numPrimsToWrite 0 = 1 ∧
      ((∃ σ' d', runDraw oneBufferConfig twoSubgroupDraw σ' = some d' ∧ d'.Halted oneBufferConfig) ∧
        (twoSubgroupDraw.Halted oneBufferConfig →
          ∀ k, (twoSubgroupDraw.thread0 k).pc = 2 * (activeBuffers oneBufferConfig).length) ∧
        ∀ k, (twoSubgroupDraw.thread0 k).pc = 2 * (activeBuffers oneBufferConfig).length →
          ReservesSerially oneBufferConfig (fun _ _ => 2) (fun _ => 0) [vec3Output]
            (twoSubgroupDraw.thread0 k) k) :=
  ⟨by decide, by decide, by decide,
    xfb_reservations_serialized oneBufferConfig (fun _ _ => 2) (fun _ => 0) [vec3Output]
      (by decide) (by decide) (by decide) (by unfold CountersInRange; decide) [0, 0, 1, 1]
      (show _ = some twoSubgroupDraw from rfl)⟩

example : (runDraw oneBufferConfig (Draw.init (fun _ _ => 2) fun _ => 0 : Draw 2) [1]).isNone := by
  decide

end NggPrimShader.Xfb.Reservation
