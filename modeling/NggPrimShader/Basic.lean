import Mathlib.Data.Nat.Bitwise
import Mathlib.Data.List.Basic
import Mathlib.Tactic.Ring

/-! Constants, wave geometry and the two packed words the primitive shader hands
to the hardware: the GS_ALLOC_REQ message (vertex and primitive counts) and the
primitive connectivity export. Words are natural numbers below `2 ^ 32`. -/
namespace NggPrimShader.Basic

def NggMaxThreadsPerSubgroup : Nat := 256

def NggMaxWavesPerSubgroup : Nat := 8

def MaxGsStreams : Nat := 4

instance : NeZero MaxGsStreams := ⟨by decide⟩

def MaxTransformFeedbackBuffers : Nat := 4

/-- Modelled from the spec: `NullPrim`, whose declaration is not in the sources.
The spec gives bit 31 of the connectivity word as the null flag and the code's
own comment initialises primitive data to `0x80000000`. -/
def NullPrim : Nat := 0x80000000

/-- A wave of the primitive shader has 32 or 64 lanes (the code asserts it). -/
structure WaveSize where
  val : Nat
  valid : val = 32 ∨ val = 64

namespace WaveSize

def wave32 : WaveSize := ⟨32, Or.inl rfl⟩

def wave64 : WaveSize := ⟨64, Or.inr rfl⟩

def waveCountInSubgroup (ws : WaveSize) : Nat := NggMaxThreadsPerSubgroup / ws.val

theorem val_pos (ws : WaveSize) : 0 < ws.val := by
  rcases ws.valid with h | h <;> omega

theorem val_le (ws : WaveSize) : ws.val ≤ 64 := by
  rcases ws.valid with h | h <;> omega

theorem waveCount_lt_val (ws : WaveSize) : ws.waveCountInSubgroup < ws.val := by
  rcases ws.valid with h | h <;> simp [waveCountInSubgroup, NggMaxThreadsPerSubgroup, h]

theorem waveCount_le (ws : WaveSize) : ws.waveCountInSubgroup ≤ NggMaxWavesPerSubgroup := by
  rcases ws.valid with h | h <;> simp [waveCountInSubgroup, NggMaxThreadsPerSubgroup,
    NggMaxWavesPerSubgroup, h]

theorem waveCount_mul (ws : WaveSize) : ws.waveCountInSubgroup * ws.val = NggMaxThreadsPerSubgroup := by
  rcases ws.valid with h | h <;> simp [waveCountInSubgroup, NggMaxThreadsPerSubgroup, h]

end WaveSize

def threadIdInSubgroup (ws : WaveSize) (waveId lane : Nat) : Nat := waveId * ws.val + lane

def createUBfe (value offset count : Nat) : Nat := (value >>> offset) &&& ((1 <<< count) - 1)

@[simp] theorem createUBfe_eq (value offset count : Nat) :
    createUBfe value offset count = value / 2 ^ offset % 2 ^ count := by
  simp [createUBfe, Nat.shiftRight_eq_div_pow, Nat.one_shiftLeft]

theorem shiftLeft_or_eq_add {k b : Nat} (a : Nat) (hb : b < 2 ^ k) :
    a <<< k ||| b = 2 ^ k * a + b := by
  rw [Nat.shiftLeft_eq, Nat.mul_comm, Nat.mul_add_lt_is_or hb]

/-- `sendGsAllocReqMessage`: `M0[10:0] = vertCount`, `M0[22:12] = primCount`. -/
def gsAllocReqMessage (vertCount primCount : Nat) : Nat := primCount <<< 12 ||| vertCount

theorem gsAllocReqMessage_eq {vertCount : Nat} (primCount : Nat) (hv : vertCount < 2 ^ 12) :
    gsAllocReqMessage vertCount primCount = 2 ^ 12 * primCount + vertCount :=
  shiftLeft_or_eq_add primCount hv

theorem gsAllocReqMessage_fields {vertCount primCount : Nat} (hv : vertCount < 2 ^ 11)
    (hp : primCount < 2 ^ 11) :
    createUBfe (gsAllocReqMessage vertCount primCount) 0 11 = vertCount ∧
      createUBfe (gsAllocReqMessage vertCount primCount) 12 11 = primCount := by
  rw [gsAllocReqMessage_eq primCount (by omega), createUBfe_eq, createUBfe_eq]
  constructor <;> omega

/-- `exportPrimitive`: `[8:0] = vertexIndex0`, `[18:10] = vertexIndex1`,
`[28:20] = vertexIndex2`; bit 31 stays clear. -/
def primitiveData (vertexIndex0 vertexIndex1 vertexIndex2 : Nat) : Nat :=
  ((vertexIndex2 <<< 10 ||| vertexIndex1) <<< 10) ||| vertexIndex0

theorem primitiveData_eq {v0 v1 : Nat} (v2 : Nat) (h0 : v0 < 2 ^ 10) (h1 : v1 < 2 ^ 10) :
    primitiveData v0 v1 v2 = 2 ^ 20 * v2 + 2 ^ 10 * v1 + v0 := by
  rw [primitiveData, shiftLeft_or_eq_add v2 h1, shiftLeft_or_eq_add _ h0]
  ring

def vertexIndices (primData : Nat) : Nat × Nat × Nat :=
  (createUBfe primData 0 9, createUBfe primData 10 9, createUBfe primData 20 9)

def isNullPrim (primData : Nat) : Bool := primData.testBit 31

theorem vertexIndices_primitiveData {v0 v1 v2 : Nat} (h0 : v0 < 2 ^ 9) (h1 : v1 < 2 ^ 9)
    (h2 : v2 < 2 ^ 9) : vertexIndices (primitiveData v0 v1 v2) = (v0, v1, v2) := by
  rw [vertexIndices, primitiveData_eq v2 (by omega) (by omega)]
  simp only [createUBfe_eq, Prod.mk.injEq]
  omega

theorem isNullPrim_primitiveData {v0 v1 v2 : Nat} (h0 : v0 < 2 ^ 9) (h1 : v1 < 2 ^ 9)
    (h2 : v2 < 2 ^ 9) : isNullPrim (primitiveData v0 v1 v2) = false := by
  rw [isNullPrim, primitiveData_eq v2 (by omega) (by omega)]
  exact Nat.testBit_lt_two_pow (by omega)

theorem isNullPrim_NullPrim : isNullPrim NullPrim = true := by decide

/-- The LDS after plain stores `(address, value)`, performed in list order. -/
def runStores (lds : Nat → Nat) (stores : List (Nat × Nat)) : Nat → Nat :=
  stores.foldl (fun mem st => fun k => if k = st.1 then st.2 else mem k) lds

theorem runStores_of_fresh (lds : Nat → Nat) {stores : List (Nat × Nat)} {a : Nat}
    (h : ∀ st ∈ stores, st.1 ≠ a) : runStores lds stores a = lds a := by
  induction stores generalizing lds with
  | nil => rfl
  | cons st stores ih =>
    simp only [runStores, List.foldl_cons] at ih ⊢
    rw [ih _ fun s hs => h s (List.mem_cons_of_mem _ hs), if_neg (h st (List.mem_cons_self _ _)).symm]

theorem runStores_of_mem (lds : Nat → Nat) {stores : List (Nat × Nat)}
    (hnd : (stores.map Prod.fst).Nodup) {a v : Nat} (hmem : (a, v) ∈ stores) :
    runStores lds stores a = v := by
  induction stores generalizing lds with
  | nil => simp at hmem
  | cons st stores ih =>
    rw [List.map_cons, List.nodup_cons] at hnd
    rcases List.mem_cons.mp hmem with rfl | hmem
    · simp only [runStores, List.foldl_cons]
      rw [← runStores, runStores_of_fresh _ fun st' h he => hnd.1 (List.mem_map.mpr ⟨st', h, he⟩)]
      simp
    · exact ih _ hnd.2 hmem

theorem runStores_of_agree (lds : Nat → Nat) {stores : List (Nat × Nat)} {a v : Nat}
    (hmem : ∃ st ∈ stores, st.1 = a) (hagree : ∀ st ∈ stores, st.1 = a → st.2 = v) :
    runStores lds stores a = v := by
  induction stores using List.reverseRecOn with
  | nil => simp at hmem
  | append_singleton stores st ih =>
    simp only [runStores, List.foldl_append, List.foldl_cons, List.foldl_nil] at ih ⊢
    by_cases hst : a = st.1
    · rw [if_pos hst, hagree st (by simp) hst.symm]
    · rw [if_neg hst]
      obtain ⟨st', hst', he⟩ := hmem
      rcases List.mem_append.mp hst' with h | h
      · exact ih ⟨st', h, he⟩ fun s hs => hagree s (by simp [hs])
      · simp only [List.mem_singleton] at h
        exact absurd (h ▸ he).symm hst

def writeValueToLds : List Nat → Nat → List (Nat × Nat)
  | [], _ => []
  | x :: data, ldsOffset => (ldsOffset, x) :: writeValueToLds data (ldsOffset + 1)

def readValueFromLds (lds : Nat → Nat) (count ldsOffset : Nat) : List Nat :=
  (List.range count).map fun e => lds (ldsOffset + e)

theorem mem_writeValueToLds : ∀ {data : List Nat} {ldsOffset : Nat} {st : Nat × Nat},
    st ∈ writeValueToLds data ldsOffset → ∃ e, ∃ h : e < data.length, st = (ldsOffset + e, data[e])
  | [], _, _, h => by simp [writeValueToLds] at h
  | x :: data, ldsOffset, st, h => by
    rcases List.mem_cons.mp h with rfl | h
    · exact ⟨0, by simp, by simp⟩
    · obtain ⟨e, he, rfl⟩ := mem_writeValueToLds h
      exact ⟨e + 1, by simp [he], by simp [Nat.add_assoc, Nat.add_comm 1]⟩

theorem getElem_mem_writeValueToLds : ∀ (data : List Nat) (ldsOffset e : Nat) (h : e < data.length),
    (ldsOffset + e, data[e]) ∈ writeValueToLds data ldsOffset
  | [], _, _, h => absurd h (Nat.not_lt_zero _)
  | x :: data, ldsOffset, 0, _ => List.mem_cons_self _ _
  | x :: data, ldsOffset, e + 1, h => List.mem_cons_of_mem _ (by
    simpa [Nat.add_assoc, Nat.add_comm 1] using
      getElem_mem_writeValueToLds data (ldsOffset + 1) e (Nat.lt_of_succ_lt_succ h))

theorem readValueFromLds_runStores (lds : Nat → Nat) {stores : List (Nat × Nat)} {data : List Nat}
    {ldsOffset n : Nat} (hn : n ≤ data.length)
    (hmem : ∀ e (h : e < data.length), (ldsOffset + e, data[e]) ∈ stores)
    (hagree : ∀ st ∈ stores, ∀ e (h : e < data.length), st.1 = ldsOffset + e → st.2 = data[e]) :
    readValueFromLds (runStores lds stores) n ldsOffset = data.take n :=
  List.ext_getElem (by simp [readValueFromLds, hn]) fun e h₁ h₂ => by
    have he : e < data.length := by simp [readValueFromLds] at h₁; omega
    simp only [readValueFromLds, List.getElem_map, List.getElem_range, List.getElem_take]
    exact runStores_of_agree lds ⟨_, hmem e he, rfl⟩ fun st hst hst1 => hagree st hst e he hst1

theorem itemSlot_inj {S b count u u' j j' e e' : Nat} (hS : b + 4 * count ≤ S) (hj : j < count)
    (hj' : j' < count) (he : e < 4) (he' : e' < 4)
    (h : u * S + (b + 4 * j) + e = u' * S + (b + 4 * j') + e') : u = u' ∧ j = j' ∧ e = e' := by
  have hdiv : ∀ v r, r < S → (v * S + r) / S = v := fun v r hr => by
    rw [Nat.mul_comm, Nat.mul_add_div (by omega), Nat.div_eq_of_lt hr, Nat.add_zero]
  have hu : u = u' := by
    rw [← hdiv u (b + 4 * j + e) (by omega), ← hdiv u' (b + 4 * j' + e') (by omega)]
    congr 1
    omega
  subst hu
  omega

end NggPrimShader.Basic
