import NggPrimShader.Basic

/-! The primitive connectivity dword of a mesh shader output primitive
(`MeshLdsRegion::PrimitiveIndices`): `[31]` is the null primitive flag and
`[28:20]`, `[18:10]`, `[8:0]` the vertex indices. `setPrimitiveIndices` and
`setPrimitiveCulled` write it with two LDS atomics each, an AND that clears
the bits the call owns and an OR that sets them, so that neither call undoes
the other's. The threads that make the two calls run concurrently, so the four
atomics can come in any order: whatever the order, the dword ends with the
indices of the last `setPrimitiveIndices` and the flag of the last
`setPrimitiveCulled`. -/
namespace NggPrimShader.Mesh.PrimitiveIndices

open NggPrimShader.Basic

inductive OutputPrimitives
  | points
  | lines
  | triangles
  deriving DecidableEq, Repr

def shl32 (value amount : Nat) : Nat := (value <<< amount) % 2 ^ 32

def primitiveConnectivityData (outputPrimitive : OutputPrimitives) (vertex0 vertex1 vertex2 : Nat) : Nat :=
  match outputPrimitive with
  | .points => vertex0
  | .lines => shl32 vertex1 10 ||| vertex0
  | .triangles => shl32 (shl32 vertex2 10 ||| vertex1) 10 ||| vertex0

inductive AtomicOp
  | and (value : Nat)
  | or (value : Nat)
  deriving DecidableEq, Repr

def AtomicOp.apply : AtomicOp → Nat → Nat
  | .and value, word => word &&& value
  | .or value, word => word ||| value

/-- `setPrimitiveIndices`: clear everything but the null primitive flag, then OR
the new data in. -/
def setPrimitiveIndices (primitiveData : Nat) : List AtomicOp :=
  let ClearMask := 1 <<< 31
  [.and ClearMask, .or primitiveData]

/-- `setPrimitiveCulled`: clear the null primitive flag of the dword, then OR
the new one in. -/
def setPrimitiveCulled (isCulled : Bool) : List AtomicOp :=
  let NullPrimitive := 1 <<< 31
  let nullPrimitive := if isCulled then NullPrimitive else 0
  let ClearMask := 0xFFFFFFFF ^^^ 1 <<< 31
  [.and ClearMask, .or nullPrimitive]

/-- The atomics on the dword in the order the LDS performs them: `inl` from the
thread that sets the indices, `inr` from the thread that sets the flag. -/
def runTrace : List (AtomicOp ⊕ AtomicOp) → Nat → Nat
  | [], word => word
  | .inl op :: rest, word => runTrace rest (op.apply word)
  | .inr op :: rest, word => runTrace rest (op.apply word)

def indicesThread : List (AtomicOp ⊕ AtomicOp) → List AtomicOp
  | [] => []
  | .inl op :: rest => op :: indicesThread rest
  | .inr _ :: rest => indicesThread rest

def culledThread : List (AtomicOp ⊕ AtomicOp) → List AtomicOp
  | [] => []
  | .inl _ :: rest => culledThread rest
  | .inr op :: rest => op :: culledThread rest

def AtomicOp.bit (i : Nat) (b : Bool) : AtomicOp → Bool
  | .and value => b && value.testBit i
  | .or value => b || value.testBit i

def runBit (i : Nat) : Bool → List AtomicOp → Bool := List.foldl (fun b op => op.bit i b)

def AtomicOp.Keeps (i : Nat) : AtomicOp → Prop
  | .and value => value.testBit i = true
  | .or value => value.testBit i = false

@[simp] theorem AtomicOp.testBit_apply (op : AtomicOp) (word i : Nat) :
    (op.apply word).testBit i = op.bit i (word.testBit i) := by
  cases op <;> simp [AtomicOp.apply, AtomicOp.bit]

theorem AtomicOp.bit_of_keeps {op : AtomicOp} {i : Nat} (h : op.Keeps i) (b : Bool) : op.bit i b = b := by
  cases op <;> simp_all [AtomicOp.Keeps, AtomicOp.bit]

@[simp] theorem runBit_nil (i : Nat) (b : Bool) : runBit i b [] = b := rfl

@[simp] theorem runBit_cons (i : Nat) (b : Bool) (op : AtomicOp) (ops : List AtomicOp) :
    runBit i b (op :: ops) = runBit i (op.bit i b) ops := rfl

theorem runBit_append (i : Nat) (b : Bool) (ops ops' : List AtomicOp) :
    runBit i b (ops ++ ops') = runBit i (runBit i b ops) ops' := List.foldl_append ..

theorem testBit_runTrace (i : Nat) : ∀ (t : List (AtomicOp ⊕ AtomicOp)) (word : Nat),
    (runTrace t word).testBit i = runBit i (word.testBit i) (t.map (Sum.elim id id))
  | [], _ => rfl
  | .inl op :: rest, word => by simp [runTrace, testBit_runTrace i rest]
  | .inr op :: rest, word => by simp [runTrace, testBit_runTrace i rest]

theorem runBit_of_culled_keeps {i : Nat} : ∀ {t : List (AtomicOp ⊕ AtomicOp)},
    (∀ op ∈ culledThread t, op.Keeps i) → ∀ b, runBit i b (t.map (Sum.elim id id)) = runBit i b (indicesThread t)
  | [], _, _ => rfl
  | .inl op :: rest, h, b => by
    simp only [culledThread] at h
    simp [indicesThread, runBit_of_culled_keeps h]
  | .inr op :: rest, h, b => by
    simp only [culledThread, List.mem_cons, forall_eq_or_imp] at h
    simp [indicesThread, AtomicOp.bit_of_keeps h.1, runBit_of_culled_keeps h.2]

theorem runBit_of_indices_keeps {i : Nat} : ∀ {t : List (AtomicOp ⊕ AtomicOp)},
    (∀ op ∈ indicesThread t, op.Keeps i) → ∀ b, runBit i b (t.map (Sum.elim id id)) = runBit i b (culledThread t)
  | [], _, _ => rfl
  | .inl op :: rest, h, b => by
    simp only [indicesThread, List.mem_cons, forall_eq_or_imp] at h
    simp [culledThread, AtomicOp.bit_of_keeps h.1, runBit_of_indices_keeps h.2]
  | .inr op :: rest, h, b => by
    simp only [indicesThread] at h
    simp [culledThread, runBit_of_indices_keeps h]

theorem runBit_false {i : Nat} : ∀ {ops : List AtomicOp}, (∀ op ∈ ops, op.bit i false = false) →
    runBit i false ops = false
  | [], _ => rfl
  | op :: ops, h => by
    simp only [List.mem_cons, forall_eq_or_imp] at h
    rw [runBit_cons, h.1, runBit_false h.2]

theorem mem_merge {op : AtomicOp} : ∀ {t : List (AtomicOp ⊕ AtomicOp)},
    op ∈ t.map (Sum.elim id id) → op ∈ indicesThread t ∨ op ∈ culledThread t
  | [], h => by simp at h
  | .inl op' :: rest, h => by
    simp only [List.map_cons, Sum.elim_inl, id, List.mem_cons] at h
    rcases h with rfl | h
    · simp [indicesThread]
    · simpa [indicesThread, culledThread, or_assoc] using .inr (mem_merge h)
  | .inr op' :: rest, h => by
    simp only [List.map_cons, Sum.elim_inr, id, List.mem_cons] at h
    rcases h with rfl | h
    · simp [culledThread]
    · simpa [indicesThread, culledThread, or_left_comm] using .inr (mem_merge h)

theorem runBit_flatMap_of_const {β : Type} {f : β → List AtomicOp} {g : β → Bool} {i : Nat}
    (hf : ∀ x b, runBit i b (f x) = g x) :
    ∀ (xs : List β) (b : Bool), runBit i b (xs.flatMap f) = (xs.getLast?.map g).getD b
  | [], _ => rfl
  | x :: xs, b => by
    rw [List.flatMap_cons, runBit_append, hf, runBit_flatMap_of_const hf xs]
    cases h : xs.getLast? <;> simp [List.getLast?_cons, h]

theorem testBit_nullPrimitive (i : Nat) : (2147483648 : Nat).testBit i = decide (i = 31) := by
  rw [show (2147483648 : Nat) = 2 ^ 31 from rfl, Nat.testBit_two_pow, decide_eq_decide, eq_comm]

theorem testBit_clearMask (i : Nat) : (2147483647 : Nat).testBit i = decide (i < 31) := by
  rw [show (2147483647 : Nat) = 2 ^ 31 - 1 from rfl, Nat.testBit_two_pow_sub_one]

theorem runBit_setPrimitiveIndices (i : Nat) (b : Bool) (primitiveData : Nat) :
    runBit i b (setPrimitiveIndices primitiveData) = (b && decide (i = 31) || primitiveData.testBit i) := by
  simp [setPrimitiveIndices, AtomicOp.bit, testBit_nullPrimitive]

theorem runBit_setPrimitiveCulled (i : Nat) (b isCulled : Bool) :
    runBit i b (setPrimitiveCulled isCulled) = (b && decide (i < 31) || isCulled && decide (i = 31)) := by
  cases isCulled <;> simp [setPrimitiveCulled, AtomicOp.bit, testBit_clearMask, testBit_nullPrimitive]

def nullPrimitiveAfter (flags : List Bool) (word : Nat) : Nat :=
  match flags.getLast? with
  | some isCulled => if isCulled then 2 ^ 31 else 0
  | none => word &&& 2 ^ 31

def connectivityAfter (datas : List Nat) (word : Nat) : Nat :=
  match datas.getLast? with
  | some primitiveData => primitiveData
  | none => word % 2 ^ 31

theorem testBit_nullPrimitiveAfter (flags : List Bool) (word i : Nat) :
    (nullPrimitiveAfter flags word).testBit i = (flags.getLast?.getD (word.testBit 31) && decide (i = 31)) := by
  unfold nullPrimitiveAfter
  split <;> rename_i h <;> simp only [h, Option.getD_some, Option.getD_none]
  · split <;> simp_all [testBit_nullPrimitive]
  · rw [Nat.testBit_and, Nat.testBit_two_pow]
    rcases eq_or_ne i 31 with rfl | hi
    · simp
    · simp [hi, hi.symm]

theorem testBit_connectivityAfter {datas : List Nat} (hdatas : ∀ d ∈ datas, d < 2 ^ 31) (word i : Nat) :
    (connectivityAfter datas word).testBit i =
      ((datas.getLast?.map (Nat.testBit · i)).getD (word.testBit i) && decide (i < 31)) := by
  unfold connectivityAfter
  split <;> rename_i h <;> simp only [h, Option.map_some', Option.map_none', Option.getD_some, Option.getD_none]
  · have hd := hdatas _ (List.mem_of_getLast?_eq_some h)
    by_cases hi : i < 31
    · simp [hi]
    · simp [hi, Nat.testBit_lt_two_pow (lt_of_lt_of_le hd (Nat.pow_le_pow_right two_pos (not_lt.mp hi)))]
  · rw [Nat.testBit_mod_two_pow, Bool.and_comm]

/-- However the LDS orders the four atomics of a `setPrimitiveIndices` and a
`setPrimitiveCulled` thread, and any number of calls of each, the connectivity
dword ends with the last data and the last flag written; bits a thread never
wrote keep their old value. -/
theorem runTrace_primitiveWord (t : List (AtomicOp ⊕ AtomicOp)) {datas : List Nat} {flags : List Bool} {word : Nat}
    (hi : indicesThread t = datas.flatMap setPrimitiveIndices) (hc : culledThread t = flags.flatMap setPrimitiveCulled)
    (hdatas : ∀ d ∈ datas, d < 2 ^ 31) (hword : word < 2 ^ 32) :
    runTrace t word = nullPrimitiveAfter flags word ||| connectivityAfter datas word := by
  apply Nat.eq_of_testBit_eq
  intro i
  rw [testBit_runTrace, Nat.testBit_or, testBit_nullPrimitiveAfter, testBit_connectivityAfter hdatas]
  rcases lt_trichotomy i 31 with hlt | rfl | hgt
  · -- bits 0..30: the flag thread keeps them
    have hkeep : ∀ op ∈ culledThread t, op.Keeps i := by
      simp only [hc, List.mem_flatMap, setPrimitiveCulled, List.mem_cons, List.not_mem_nil, or_false]
      rintro op ⟨isCulled, -, rfl | rfl⟩ <;> cases isCulled <;>
        simp [AtomicOp.Keeps, testBit_clearMask, testBit_nullPrimitive, hlt, hlt.ne]
    rw [runBit_of_culled_keeps hkeep, hi,
      runBit_flatMap_of_const (g := (Nat.testBit · i)) fun d b => by simp [runBit_setPrimitiveIndices, hlt.ne]]
    simp [hlt, hlt.ne]
  · -- bit 31: the indices thread keeps it
    have hkeep : ∀ op ∈ indicesThread t, op.Keeps 31 := by
      simp only [hi, List.mem_flatMap, setPrimitiveIndices, List.mem_cons, List.not_mem_nil, or_false]
      rintro op ⟨d, hd, rfl | rfl⟩
      · simp [AtomicOp.Keeps, testBit_nullPrimitive]
      · exact Nat.testBit_lt_two_pow (hdatas d hd)
    rw [runBit_of_indices_keeps hkeep, hc, runBit_flatMap_of_const (g := id) fun c b => by simp [runBit_setPrimitiveCulled]]
    simp
  · -- bits 32 and up: clear before, and no atomic sets them
    have hclear : ∀ op ∈ t.map (Sum.elim id id), op.bit i false = false := fun op hop => by
      rcases mem_merge hop with h | h
      · simp only [hi, List.mem_flatMap, setPrimitiveIndices, List.mem_cons, List.not_mem_nil, or_false] at h
        obtain ⟨d, hd, rfl | rfl⟩ := h
        · rfl
        · simpa [AtomicOp.bit] using Nat.testBit_lt_two_pow ((hdatas d hd).trans (Nat.pow_lt_pow_right one_lt_two hgt))
      · simp only [hc, List.mem_flatMap, setPrimitiveCulled, List.mem_cons, List.not_mem_nil, or_false] at h
        obtain ⟨isCulled, -, rfl | rfl⟩ := h
        · rfl
        · cases isCulled <;> simp [AtomicOp.bit, testBit_nullPrimitive, hgt.ne']
    rw [Nat.testBit_lt_two_pow (hword.trans_le (Nat.pow_le_pow_right two_pos hgt)), runBit_false hclear]
    simp [hgt.ne', not_lt.mpr hgt.le]

theorem runTrace_primitiveWord_interleaved :
    runTrace [.inl (.and (1 <<< 31)), .inr (.and (0xFFFFFFFF ^^^ 1 <<< 31)), .inr (.or (1 <<< 31)),
        .inl (.or 0x00302001)] 0 = nullPrimitiveAfter [true] 0 ||| connectivityAfter [0x00302001] 0 :=
  runTrace_primitiveWord _ rfl rfl (by simp) (by norm_num)

theorem primitiveConnectivityData_triangles {v1 v2 : Nat} (v0 : Nat) (h1 : v1 < 2 ^ 10)
    (h2 : v2 < 2 ^ 11) : primitiveConnectivityData .triangles v0 v1 v2 = primitiveData v0 v1 v2 := by
  have e1 : shl32 v2 10 = v2 <<< 10 := Nat.mod_eq_of_lt (by rw [Nat.shiftLeft_eq]; omega)
  have e2 : shl32 (v2 <<< 10 ||| v1) 10 = (v2 <<< 10 ||| v1) <<< 10 :=
    Nat.mod_eq_of_lt (by rw [shiftLeft_or_eq_add v2 h1, Nat.shiftLeft_eq]; omega)
  rw [primitiveConnectivityData, e1, e2, primitiveData]

theorem nullPrimitiveAfter_zero (flags : List Bool) :
    nullPrimitiveAfter flags 0 = (flags.getLast?.getD false).toNat <<< 31 := by
  unfold nullPrimitiveAfter
  split <;> rename_i h <;> simp only [h, Option.getD_some, Option.getD_none]
  · split <;> simp_all
  · rfl

theorem vertexIndices_isNullPrim {c v0 v1 v2 : Nat} (hc : c < 2) (h0 : v0 < 2 ^ 9) (h1 : v1 < 2 ^ 9)
    (h2 : v2 < 2 ^ 9) :
    vertexIndices (c <<< 31 ||| primitiveData v0 v1 v2) = (v0, v1, v2) ∧
      isNullPrim (c <<< 31 ||| primitiveData v0 v1 v2) = decide (c = 1) := by
  rw [primitiveData_eq v2 (by omega) (by omega), shiftLeft_or_eq_add c (by omega)]
  simp only [vertexIndices, isNullPrim, createUBfe_eq, Nat.testBit_to_div_mod, Prod.mk.injEq, decide_eq_decide]
  omega

/-- From the zeroed dword of `.initPrimitiveIndicesBody`, a triangle whose
indices fit in the 9-bit fields is exported with the indices of the last
`SetPrimitiveIndices` and the null flag of the last `SetPrimitiveCulled`
(none: indices 0, not culled), however the two threads' atomics interleave. -/
theorem exportedPrimitive_triangles (t : List (AtomicOp ⊕ AtomicOp)) {calls : List (Nat × Nat × Nat)}
    {flags : List Bool}
    (hi : indicesThread t =
      (calls.map fun v => primitiveConnectivityData .triangles v.1 v.2.1 v.2.2).flatMap setPrimitiveIndices)
    (hc : culledThread t = flags.flatMap setPrimitiveCulled)
    (hcalls : ∀ v ∈ calls, v.1 < 2 ^ 9 ∧ v.2.1 < 2 ^ 9 ∧ v.2.2 < 2 ^ 9) :
    vertexIndices (runTrace t 0) = calls.getLast?.getD (0, 0, 0) ∧
      isNullPrim (runTrace t 0) = flags.getLast?.getD false := by
  have hdata : ∀ v ∈ calls, primitiveConnectivityData .triangles v.1 v.2.1 v.2.2 = primitiveData v.1 v.2.1 v.2.2 ∧
      primitiveData v.1 v.2.1 v.2.2 < 2 ^ 31 := fun v hv => by
    obtain ⟨h0, h1, h2⟩ := hcalls v hv
    rw [primitiveConnectivityData_triangles _ (by omega) (by omega), primitiveData_eq _ (by omega) (by omega)]
    omega
  have hdatas : ∀ d ∈ calls.map fun v => primitiveConnectivityData .triangles v.1 v.2.1 v.2.2, d < 2 ^ 31 := by
    simp only [List.mem_map]
    rintro _ ⟨v, hv, rfl⟩
    exact (hdata v hv).1 ▸ (hdata v hv).2
  have hflag : (flags.getLast?.getD false).toNat < 2 := Bool.toNat_lt _
  rw [runTrace_primitiveWord t hi hc hdatas (by norm_num), nullPrimitiveAfter_zero, connectivityAfter, List.getLast?_map]
  cases h : calls.getLast? with
  | none =>
    have hz : (0 : Nat) < 2 ^ 9 := by norm_num
    simpa [primitiveData] using vertexIndices_isNullPrim hflag hz hz hz
  | some v =>
    obtain ⟨h0, h1, h2⟩ := hcalls v (List.mem_of_getLast?_eq_some h)
    simpa [(hdata v (List.mem_of_getLast?_eq_some h)).1] using vertexIndices_isNullPrim hflag h0 h1 h2

theorem exportedPrimitive_triangles_interleaved :
    vertexIndices (runTrace [.inl (.and (1 <<< 31)), .inr (.and (0xFFFFFFFF ^^^ 1 <<< 31)), .inr (.or (1 <<< 31)),
        .inl (.or (primitiveConnectivityData .triangles 1 2 3))] 0) = [(1, 2, 3)].getLast?.getD (0, 0, 0) ∧
      isNullPrim (runTrace [.inl (.and (1 <<< 31)), .inr (.and (0xFFFFFFFF ^^^ 1 <<< 31)), .inr (.or (1 <<< 31)),
        .inl (.or (primitiveConnectivityData .triangles 1 2 3))] 0) = [true].getLast?.getD false :=
  exportedPrimitive_triangles _ rfl rfl (by decide)

end NggPrimShader.Mesh.PrimitiveIndices
