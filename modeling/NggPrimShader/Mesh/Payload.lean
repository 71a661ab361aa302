import NggPrimShader.Mesh.Dispatch
import Mathlib

/-! Task payload accesses. The task shader writes its payload to its entry of
the payload ring and the mesh shader reads it back, both through raw buffer
accesses at `byteOffset` within the entry at `payloadRingEntryOffset`. The
backend takes no 64-bit elements and no vectors of 8- or 16-bit elements, so
`writeTaskPayload` and `readTaskPayload` lower a 64-bit access to one or two
dword-vector accesses (the second 16 bytes on) and an 8- or 16-bit vector
access to one scalar access per element.

The ring is a byte memory; a raw access of `<n x iW>` covers `n * (W / 8)`
bytes, each element little-endian. The typed raw access is the meaning of the
access before lowering, and the lowering is proved to keep it. -/

namespace NggPrimShader.Mesh.Payload

open NggPrimShader.Mesh.Dispatch

def toBytes : Nat → Nat → List Nat
  | 0, _ => []
  | w + 1, e => e % 256 :: toBytes w (e / 256)

def ofBytes : List Nat → Nat
  | [] => 0
  | b :: bs => b + 256 * ofBytes bs

@[simp] theorem length_toBytes (w e : Nat) : (toBytes w e).length = w := by
  induction w generalizing e with
  | zero => rfl
  | succ w ih => simp [toBytes, ih]

theorem toBytes_add (a b e : Nat) : toBytes (a + b) e = toBytes a e ++ toBytes b (e / 256 ^ a) := by
  induction a generalizing e with
  | zero => simp [toBytes]
  | succ a ih => rw [Nat.succ_add, toBytes, toBytes, ih, Nat.div_div_eq_div_mul, pow_succ']; rfl

theorem ofBytes_toBytes (w e : Nat) : ofBytes (toBytes w e) = e % 256 ^ w := by
  induction w generalizing e with
  | zero => simp [toBytes, ofBytes, Nat.mod_one]
  | succ w ih => rw [toBytes, ofBytes, ih, pow_succ', Nat.mod_mul]

theorem ofBytes_append (l₁ l₂ : List Nat) : ofBytes (l₁ ++ l₂) = ofBytes l₁ + 256 ^ l₁.length * ofBytes l₂ := by
  induction l₁ with
  | nil => simp [ofBytes]
  | cons b bs ih => rw [List.cons_append, ofBytes, ofBytes, ih, List.length_cons, pow_succ']; ring

theorem toBytes_mod (w e : Nat) : toBytes w (e % 256 ^ w) = toBytes w e := by
  induction w generalizing e with
  | zero => rfl
  | succ w ih => rw [toBytes, toBytes, pow_succ', Nat.mod_mul_right_mod, Nat.mod_mul_right_div_self, ih]

def storeBytes (mem : Nat → Nat) (addr : Nat) (bytes : List Nat) : Nat → Nat :=
  fun a => if addr ≤ a then bytes.getD (a - addr) (mem a) else mem a

def loadBytes (mem : Nat → Nat) (addr count : Nat) : List Nat := (List.range count).map fun k => mem (addr + k)

def valueBytes (bitWidth : Nat) (value : List Nat) : List Nat := value.flatMap (toBytes (bitWidth / 8))

@[simp] theorem storeBytes_nil (mem : Nat → Nat) (addr : Nat) : storeBytes mem addr [] = mem :=
  funext fun a => by simp [storeBytes]

theorem storeBytes_append (mem : Nat → Nat) (addr : Nat) (b₁ b₂ : List Nat) :
    storeBytes (storeBytes mem addr b₁) (addr + b₁.length) b₂ = storeBytes mem addr (b₁ ++ b₂) := by
  funext a
  simp only [storeBytes, List.getD_eq_getElem?_getD]
  by_cases h : addr ≤ a
  · by_cases h₁ : a - addr < b₁.length
    · rw [if_neg (by omega), if_pos h, if_pos h, List.getElem?_append_left h₁]
    · have hnone : b₁[a - addr]? = none := List.getElem?_eq_none (by omega)
      rw [if_pos (by omega), if_pos h, if_pos h, List.getElem?_append_right (by omega), hnone, Option.getD_none,
        Nat.sub_add_eq]
  · rw [if_neg (by omega), if_neg h, if_neg h]

theorem storeBytes_of_not_mem {mem : Nat → Nat} {addr a : Nat} {bytes : List Nat}
    (h : a < addr ∨ addr + bytes.length ≤ a) : storeBytes mem addr bytes a = mem a := by
  simp only [storeBytes, List.getD_eq_getElem?_getD]
  split
  · rw [List.getElem?_eq_none (by omega), Option.getD_none]
  · rfl

theorem storeBytes_congr {mem mem' : Nat → Nat} {a : Nat} (h : mem a = mem' a) (addr : Nat) (bytes : List Nat) :
    storeBytes mem addr bytes a = storeBytes mem' addr bytes a := by
  simp only [storeBytes, h]

theorem loadBytes_storeBytes (mem : Nat → Nat) (addr : Nat) (bytes : List Nat) :
    loadBytes (storeBytes mem addr bytes) addr bytes.length = bytes :=
  List.ext_getElem (by simp [loadBytes]) fun k _ hk => by simp [loadBytes, storeBytes, hk]

theorem loadBytes_add (mem : Nat → Nat) (addr a b : Nat) :
    loadBytes mem addr (a + b) = loadBytes mem addr a ++ loadBytes mem (addr + a) b := by
  simp [loadBytes, List.range_add, Nat.add_assoc]

theorem loadBytes_congr {mem mem' : Nat → Nat} {addr count : Nat}
    (h : ∀ a, addr ≤ a → a < addr + count → mem a = mem' a) : loadBytes mem addr count = loadBytes mem' addr count :=
  List.map_congr_left fun k hk => h _ (by omega) (by simp at hk; omega)

@[simp] theorem valueBytes_nil (bitWidth : Nat) : valueBytes bitWidth [] = [] := rfl

@[simp] theorem valueBytes_cons (bitWidth e : Nat) (value : List Nat) :
    valueBytes bitWidth (e :: value) = toBytes (bitWidth / 8) e ++ valueBytes bitWidth value := rfl

@[simp] theorem valueBytes_append (bitWidth : Nat) (v₁ v₂ : List Nat) :
    valueBytes bitWidth (v₁ ++ v₂) = valueBytes bitWidth v₁ ++ valueBytes bitWidth v₂ :=
  List.flatMap_append _ _ _

@[simp] theorem length_valueBytes (bitWidth : Nat) (value : List Nat) :
    (valueBytes bitWidth value).length = value.length * (bitWidth / 8) := by
  induction value with
  | nil => simp
  | cons e value ih => simp [ih, Nat.succ_mul, Nat.add_comm]

/-- An `amdgcn_raw_buffer_store` of `writeValue`, a `<n x i bitWidth>`, at
`byteOffset` in the payload ring entry. -/
structure RawBufferStore where
  bitWidth : Nat
  writeValue : List Nat
  byteOffset : Nat
  deriving DecidableEq, Repr

def RawBufferStore.Supported (s : RawBufferStore) : Prop :=
  s.bitWidth ≠ 64 ∧ s.writeValue.length ≤ 4 ∧ (s.bitWidth = 8 ∨ s.bitWidth = 16 → s.writeValue.length ≤ 1)

instance : DecidablePred RawBufferStore.Supported := fun _ => inferInstanceAs (Decidable (_ ∧ _ ∧ _))

def rawBufferStore (payloadRingEntryOffset : Nat) (mem : Nat → Nat) (s : RawBufferStore) : Nat → Nat :=
  storeBytes mem (payloadRingEntryOffset + s.byteOffset) (valueBytes s.bitWidth s.writeValue)

def runStores (payloadRingEntryOffset : Nat) (mem : Nat → Nat) (stores : List RawBufferStore) : Nat → Nat :=
  stores.foldl (rawBufferStore payloadRingEntryOffset) mem

def rawBufferLoad (mem : Nat → Nat) (payloadRingEntryOffset bitWidth : Nat) : Nat → Nat → List Nat
  | 0, _ => []
  | numElements + 1, byteOffset =>
    ofBytes (loadBytes mem (payloadRingEntryOffset + byteOffset) (bitWidth / 8)) ::
      rawBufferLoad mem payloadRingEntryOffset bitWidth numElements (byteOffset + bitWidth / 8)

def shuffleVector (v1 v2 mask : List Nat) : List Nat := mask.map fun i => (v1 ++ v2).getD i 0

def poisonValue (n : Nat) : List Nat := List.replicate n 0

def bitCastToDwords (value : List Nat) : List Nat := value.flatMap fun e => [e % 2 ^ 32, e / 2 ^ 32]

@[simp] theorem length_shuffleVector (v1 v2 mask : List Nat) : (shuffleVector v1 v2 mask).length = mask.length :=
  List.length_map _ _

@[simp] theorem length_bitCastToDwords (value : List Nat) : (bitCastToDwords value).length = 2 * value.length := by
  induction value with
  | nil => rfl
  | cons e value ih => simp [bitCastToDwords] at *; omega

def bitCastFromDwords : List Nat → List Nat
  | lo :: hi :: rest => (lo + 2 ^ 32 * hi) :: bitCastFromDwords rest
  | _ => []

@[simp] theorem bitCastFromDwords_bitCastToDwords (value : List Nat) :
    bitCastFromDwords (bitCastToDwords value) = value := by
  induction value with
  | nil => rfl
  | cons e value ih =>
    simp only [bitCastToDwords, List.flatMap_cons, List.cons_append, List.nil_append] at ih ⊢
    rw [bitCastFromDwords, ih, Nat.mod_add_div]

/-- `writeTaskPayload`: the raw buffer stores a write of `writeValue`, a
vector of `bitWidth`-bit elements, lowers to. -/
def writeTaskPayload (bitWidth : Nat) (writeValue : List Nat) (byteOffset : Nat) : List RawBufferStore :=
  let numElements := writeValue.length
  if h64 : bitWidth = 64 then
    -- Cast to <n x i32>
    let castValue := bitCastToDwords writeValue
    -- 64scalar -> vec2, 64vec2 -> vec4, 64vec3 -> vec4 + vec2, 64vec4 -> vec4 + vec4
    let writeValue1 :=
      if numElements > 2 then shuffleVector castValue (poisonValue castValue.length) [0, 1, 2, 3] else castValue
    writeTaskPayload 32 writeValue1 byteOffset ++
      if numElements > 2 then
        writeTaskPayload 32
          (shuffleVector castValue (poisonValue castValue.length) ([4, 5, 6, 7].take (2 * numElements - 4)))
          (byteOffset + 4 * 4)
      else []
  else if hsmall : (bitWidth = 8 ∨ bitWidth = 16) ∧ numElements > 1 then
    -- Scalarize
    (List.range numElements).flatMap fun i =>
      writeTaskPayload bitWidth [writeValue.getD i 0] (if i > 0 then byteOffset + i * bitWidth / 8 else byteOffset)
  else
    [⟨bitWidth, writeValue, byteOffset⟩]
termination_by (if bitWidth = 64 then 2 * writeValue.length + 1 else 0) + writeValue.length
decreasing_by
  all_goals simp_wf
  · simp only [h64, if_true]; split <;> simp <;> omega
  · simp only [h64, if_true]; omega
  · have : 1 < writeValue.length := hsmall.2
    simp only [h64, if_false]; omega

/-- `readTaskPayload`: a read of `<numElements x i bitWidth>` through the
raw buffer loads it lowers to. -/
def readTaskPayload (mem : Nat → Nat) (payloadRingEntryOffset bitWidth numElements byteOffset : Nat) : List Nat :=
  if h64 : bitWidth = 64 then
    -- 64 -> vec2, 64vec2 -> vec4, 64vec3 -> vec4 + vec2, 64vec4 -> vec4 + vec4
    let readValue1 := readTaskPayload mem payloadRingEntryOffset 32 (min (2 * numElements) 4) byteOffset
    let readValue :=
      if numElements > 2 then
        let readValue2 := readTaskPayload mem payloadRingEntryOffset 32 (2 * numElements - 4) (byteOffset + 4 * 4)
        let readValue2 :=
          if numElements = 3 then shuffleVector readValue2 (poisonValue readValue2.length) [0, 1, 2, 3] else readValue2
        shuffleVector readValue1 readValue2 ([0, 1, 2, 3, 4, 5, 6, 7].take (numElements * 2))
      else readValue1
    bitCastFromDwords readValue
  else if hsmall : (bitWidth = 8 ∨ bitWidth = 16) ∧ numElements > 1 then
    -- Scalarize
    (List.range numElements).map fun i =>
      (readTaskPayload mem payloadRingEntryOffset bitWidth 1
        (if i > 0 then byteOffset + i * bitWidth / 8 else byteOffset)).headD 0
  else
    rawBufferLoad mem payloadRingEntryOffset bitWidth numElements byteOffset
termination_by (if bitWidth = 64 then 2 * numElements + 1 else 0) + numElements
decreasing_by
  all_goals simp_wf
  · simp only [h64, if_true]; omega
  · simp only [h64, if_true]; omega
  · simp only [h64, if_false]; omega

@[simp] theorem runStores_nil (payloadRingEntryOffset : Nat) (mem : Nat → Nat) :
    runStores payloadRingEntryOffset mem [] = mem := rfl

@[simp] theorem runStores_cons (payloadRingEntryOffset : Nat) (mem : Nat → Nat) (s : RawBufferStore)
    (stores : List RawBufferStore) :
    runStores payloadRingEntryOffset mem (s :: stores) =
      runStores payloadRingEntryOffset (rawBufferStore payloadRingEntryOffset mem s) stores := rfl

theorem runStores_append (payloadRingEntryOffset : Nat) (mem : Nat → Nat) (stores₁ stores₂ : List RawBufferStore) :
    runStores payloadRingEntryOffset mem (stores₁ ++ stores₂) =
      runStores payloadRingEntryOffset (runStores payloadRingEntryOffset mem stores₁) stores₂ :=
  List.foldl_append _ _ _ _

theorem runStores_congr {mem mem' : Nat → Nat} {a : Nat} (h : mem a = mem' a) (payloadRingEntryOffset : Nat)
    (stores : List RawBufferStore) :
    runStores payloadRingEntryOffset mem stores a = runStores payloadRingEntryOffset mem' stores a := by
  induction stores generalizing mem mem' with
  | nil => exact h
  | cons s stores ih => exact ih (storeBytes_congr h _ _)

theorem rawBufferLoad_add (mem : Nat → Nat) (payloadRingEntryOffset bitWidth a b byteOffset : Nat) :
    rawBufferLoad mem payloadRingEntryOffset bitWidth (a + b) byteOffset =
      rawBufferLoad mem payloadRingEntryOffset bitWidth a byteOffset ++
        rawBufferLoad mem payloadRingEntryOffset bitWidth b (byteOffset + a * (bitWidth / 8)) := by
  induction a generalizing byteOffset with
  | zero => simp [rawBufferLoad]
  | succ a ih => rw [Nat.succ_add, rawBufferLoad, rawBufferLoad, ih, Nat.succ_mul, Nat.add_assoc,
      Nat.add_comm (bitWidth / 8)]; rfl

@[simp] theorem length_rawBufferLoad (mem : Nat → Nat) (payloadRingEntryOffset bitWidth numElements byteOffset : Nat) :
    (rawBufferLoad mem payloadRingEntryOffset bitWidth numElements byteOffset).length = numElements := by
  induction numElements generalizing byteOffset with
  | zero => rfl
  | succ n ih => simp [rawBufferLoad, ih]

theorem rawBufferLoad_eq_map (mem : Nat → Nat) (payloadRingEntryOffset bitWidth numElements byteOffset : Nat) :
    rawBufferLoad mem payloadRingEntryOffset bitWidth numElements byteOffset =
      (List.range numElements).map fun i =>
        ofBytes (loadBytes mem (payloadRingEntryOffset + (byteOffset + i * (bitWidth / 8))) (bitWidth / 8)) := by
  induction numElements generalizing byteOffset with
  | zero => rfl
  | succ n ih =>
    rw [rawBufferLoad, ih, List.range_succ_eq_map, List.map_cons, List.map_map]
    simp only [Function.comp_def, Nat.succ_mul, Nat.zero_mul, Nat.add_zero]
    congr 2
    funext i
    rw [Nat.add_assoc byteOffset, Nat.add_comm (bitWidth / 8)]

theorem rawBufferLoad_congr {mem mem' : Nat → Nat} {payloadRingEntryOffset bitWidth numElements byteOffset : Nat}
    (h : ∀ a, payloadRingEntryOffset + byteOffset ≤ a →
      a < payloadRingEntryOffset + byteOffset + numElements * (bitWidth / 8) → mem a = mem' a) :
    rawBufferLoad mem payloadRingEntryOffset bitWidth numElements byteOffset =
      rawBufferLoad mem' payloadRingEntryOffset bitWidth numElements byteOffset := by
  induction numElements generalizing byteOffset with
  | zero => rfl
  | succ n ih =>
    have hsucc : (n + 1) * (bitWidth / 8) = n * (bitWidth / 8) + bitWidth / 8 := Nat.succ_mul n _
    rw [rawBufferLoad, rawBufferLoad, loadBytes_congr fun a h₁ h₂ => h a h₁ (by omega),
      ih fun a h₁ h₂ => h a (by omega) (by omega)]

theorem rawBufferLoad_storeBytes (mem : Nat → Nat) (payloadRingEntryOffset bitWidth byteOffset : Nat)
    (value : List Nat) :
    rawBufferLoad (storeBytes mem (payloadRingEntryOffset + byteOffset) (valueBytes bitWidth value))
        payloadRingEntryOffset bitWidth value.length byteOffset =
      value.map (· % 256 ^ (bitWidth / 8)) := by
  induction value generalizing mem byteOffset with
  | nil => rfl
  | cons e value ih =>
    have hfirst := loadBytes_storeBytes mem (payloadRingEntryOffset + byteOffset) (toBytes (bitWidth / 8) e)
    rw [length_toBytes] at hfirst
    rw [List.length_cons, rawBufferLoad, valueBytes_cons, ← storeBytes_append, length_toBytes,
      loadBytes_congr fun a _ h => storeBytes_of_not_mem (.inl h), hfirst, ofBytes_toBytes, Nat.add_assoc, ih,
      List.map_cons]

theorem bitCastFromDwords_rawBufferLoad (mem : Nat → Nat) (payloadRingEntryOffset numElements byteOffset : Nat) :
    bitCastFromDwords (rawBufferLoad mem payloadRingEntryOffset 32 (2 * numElements) byteOffset) =
      rawBufferLoad mem payloadRingEntryOffset 64 numElements byteOffset := by
  induction numElements generalizing byteOffset with
  | zero => rfl
  | succ n ih =>
    have hsplit : loadBytes mem (payloadRingEntryOffset + byteOffset) (64 / 8) =
        loadBytes mem (payloadRingEntryOffset + byteOffset) 4 ++
          loadBytes mem (payloadRingEntryOffset + (byteOffset + 4)) 4 := by
      rw [← Nat.add_assoc]; exact loadBytes_add mem _ 4 4
    rw [show 2 * (n + 1) = 2 * n + 1 + 1 by ring, rawBufferLoad, rawBufferLoad, rawBufferLoad, bitCastFromDwords, ih,
      hsplit, ofBytes_append]
    simp [loadBytes, Nat.add_assoc]

theorem valueBytes_bitCastToDwords (value : List Nat) :
    valueBytes 32 (bitCastToDwords value) = valueBytes 64 value := by
  induction value with
  | nil => rfl
  | cons e value ih =>
    have h8 : toBytes (64 / 8) e = toBytes 4 (e % 2 ^ 32) ++ toBytes 4 (e / 2 ^ 32) := by
      rw [show 64 / 8 = 4 + 4 from rfl, toBytes_add, show (2 : Nat) ^ 32 = 256 ^ 4 by norm_num, toBytes_mod]
    rw [valueBytes_cons, h8, ← ih]
    simp [bitCastToDwords]

theorem shuffleVector_range {v₁ v₂ : List Nat} {s m : Nat} (h : s + m ≤ v₁.length + v₂.length) :
    shuffleVector v₁ v₂ ((List.range m).map (s + ·)) = ((v₁ ++ v₂).drop s).take m := by
  have hlen : s + m ≤ (v₁ ++ v₂).length := (List.length_append v₁ v₂).symm ▸ h
  refine List.ext_getElem ?_ fun i h₁ _ => ?_
  · simp only [shuffleVector, List.length_map, List.length_range, List.length_take, List.length_drop]
    omega
  · simp only [shuffleVector, List.length_map, List.length_range] at h₁
    simp only [shuffleVector, List.getElem_map, List.getElem_range, List.getElem_take, List.getElem_drop,
      List.getD_eq_getElem?_getD, List.getElem?_eq_getElem (show s + i < (v₁ ++ v₂).length by omega),
      Option.getD_some]

theorem shuffleVector_take {v₁ v₂ : List Nat} {m : Nat} (h : m ≤ v₁.length + v₂.length) :
    shuffleVector v₁ v₂ (List.range m) = (v₁ ++ v₂).take m := by
  simpa using shuffleVector_range (s := 0) (by simpa using h)

theorem writeTaskPayload_of_ne {bitWidth : Nat} {writeValue : List Nat} (h64 : bitWidth ≠ 64)
    (hsmall : ¬((bitWidth = 8 ∨ bitWidth = 16) ∧ writeValue.length > 1)) (byteOffset : Nat) :
    writeTaskPayload bitWidth writeValue byteOffset = [⟨bitWidth, writeValue, byteOffset⟩] := by
  rw [writeTaskPayload]
  simp only [dif_neg h64, dif_neg hsmall]

theorem writeTaskPayload_scalar {bitWidth : Nat} (h64 : bitWidth ≠ 64) (e byteOffset : Nat) :
    writeTaskPayload bitWidth [e] byteOffset = [⟨bitWidth, [e], byteOffset⟩] :=
  writeTaskPayload_of_ne h64 (by simp) byteOffset

theorem readTaskPayload_of_ne (mem : Nat → Nat) (payloadRingEntryOffset : Nat) {bitWidth numElements : Nat}
    (h64 : bitWidth ≠ 64) (hsmall : ¬((bitWidth = 8 ∨ bitWidth = 16) ∧ numElements > 1)) (byteOffset : Nat) :
    readTaskPayload mem payloadRingEntryOffset bitWidth numElements byteOffset =
      rawBufferLoad mem payloadRingEntryOffset bitWidth numElements byteOffset := by
  rw [readTaskPayload]
  simp only [dif_neg h64, dif_neg hsmall]

theorem elemByteOffset_eq {bitWidth : Nat} (h : bitWidth = 8 ∨ bitWidth = 16) (byteOffset i : Nat) :
    (if i > 0 then byteOffset + i * bitWidth / 8 else byteOffset) = byteOffset + i * (bitWidth / 8) := by
  rcases h with rfl | rfl <;> split <;> omega

theorem writeTaskPayload_scalarize {bitWidth : Nat} {writeValue : List Nat} (hsmall : bitWidth = 8 ∨ bitWidth = 16)
    (h1 : 1 < writeValue.length) (byteOffset : Nat) :
    writeTaskPayload bitWidth writeValue byteOffset = (List.range writeValue.length).flatMap fun i =>
      [⟨bitWidth, [writeValue.getD i 0], byteOffset + i * (bitWidth / 8)⟩] := by
  have h64 : bitWidth ≠ 64 := by omega
  rw [writeTaskPayload]
  simp only [dif_neg h64, dif_pos (And.intro hsmall h1), writeTaskPayload_scalar h64, elemByteOffset_eq hsmall]

theorem runStores_scalarize (payloadRingEntryOffset : Nat) (mem : Nat → Nat) (bitWidth : Nat) (value : List Nat)
    (byteOffset : Nat) :
    runStores payloadRingEntryOffset mem ((List.range value.length).flatMap fun i =>
        [⟨bitWidth, [value.getD i 0], byteOffset + i * (bitWidth / 8)⟩]) =
      storeBytes mem (payloadRingEntryOffset + byteOffset) (valueBytes bitWidth value) := by
  induction value generalizing mem byteOffset with
  | nil => simp
  | cons e value ih =>
    have htail := ih (storeBytes mem (payloadRingEntryOffset + byteOffset) (toBytes (bitWidth / 8) e))
      (byteOffset + bitWidth / 8)
    simp only [List.length_cons, List.range_succ_eq_map, List.flatMap_cons, List.flatMap_map, List.getD_cons_zero,
      List.getD_cons_succ, Nat.zero_mul, Nat.add_zero, List.singleton_append, runStores_cons, rawBufferStore,
      valueBytes_cons, valueBytes_nil, List.append_nil, Nat.succ_mul] at htail ⊢
    have hoff : ∀ i, byteOffset + (i * (bitWidth / 8) + bitWidth / 8) =
        byteOffset + bitWidth / 8 + i * (bitWidth / 8) := fun i => by omega
    rw [← storeBytes_append, length_toBytes]
    simp only [hoff]
    rw [htail, Nat.add_assoc]

theorem runStores_writeTaskPayload (payloadRingEntryOffset : Nat) (mem : Nat → Nat) (bitWidth byteOffset : Nat)
    {writeValue : List Nat} (h : writeValue.length ≤ 4) :
    runStores payloadRingEntryOffset mem (writeTaskPayload bitWidth writeValue byteOffset) =
      rawBufferStore payloadRingEntryOffset mem ⟨bitWidth, writeValue, byteOffset⟩ := by
  rw [writeTaskPayload]
  dsimp only
  split
  case isTrue h64 =>
    subst h64
    have hcast := length_bitCastToDwords writeValue
    simp only [writeTaskPayload_of_ne (show (32 : Nat) ≠ 64 by decide) (by simp)]
    split
    case isTrue h2 =>
      -- dwords 0 to 3 at `byteOffset`, the others 16 bytes on
      have hlo : shuffleVector (bitCastToDwords writeValue) (poisonValue (bitCastToDwords writeValue).length)
          [0, 1, 2, 3] = (bitCastToDwords writeValue).take 4 := by
        rw [show [0, 1, 2, 3] = (List.range 4).map (0 + ·) from rfl, shuffleVector_range (by simp [poisonValue]; omega),
          List.drop_zero, List.take_append_of_le_length (by omega)]
      have hmask : [4, 5, 6, 7].take (2 * writeValue.length - 4) = (List.range (2 * writeValue.length - 4)).map (4 + ·) := by
        rw [show [4, 5, 6, 7] = (List.range 4).map (4 + ·) from rfl, ← List.map_take, List.take_range,
          Nat.min_eq_left (by omega)]
      have hhi : shuffleVector (bitCastToDwords writeValue) (poisonValue (bitCastToDwords writeValue).length)
          ([4, 5, 6, 7].take (2 * writeValue.length - 4)) = (bitCastToDwords writeValue).drop 4 := by
        rw [hmask, shuffleVector_range (by simp [poisonValue]; omega), List.drop_append_of_le_length (by omega),
          List.take_left' (by simp [hcast])]
      have hlen : (valueBytes 32 ((bitCastToDwords writeValue).take 4)).length = 4 * 4 := by simp; omega
      simp only [hlo, hhi, List.singleton_append, runStores_cons, runStores_nil, rawBufferStore]
      rw [← Nat.add_assoc, ← hlen, storeBytes_append, ← valueBytes_append, List.take_append_drop,
        valueBytes_bitCastToDwords]
    case isFalse => simp [rawBufferStore, valueBytes_bitCastToDwords]
  case isFalse h64 =>
    split
    case isTrue hsmall =>
      simp only [writeTaskPayload_scalar h64, elemByteOffset_eq hsmall.1]
      exact runStores_scalarize _ _ _ _ _
    case isFalse => rfl

theorem readTaskPayload_eq_rawBufferLoad (mem : Nat → Nat) (payloadRingEntryOffset bitWidth byteOffset : Nat)
    {numElements : Nat} (h : numElements ≤ 4) :
    readTaskPayload mem payloadRingEntryOffset bitWidth numElements byteOffset =
      rawBufferLoad mem payloadRingEntryOffset bitWidth numElements byteOffset := by
  rw [readTaskPayload]
  split
  case isTrue h64 =>
    subst h64
    simp only [readTaskPayload_of_ne mem _ (show (32 : Nat) ≠ 64 by decide) (by simp)]
    rw [← bitCastFromDwords_rawBufferLoad]
    congr 1
    split
    · -- the dwords of the first 16 bytes, then the others
      have hsplit : ∀ m, rawBufferLoad mem payloadRingEntryOffset 32 (4 + m) byteOffset =
          rawBufferLoad mem payloadRingEntryOffset 32 4 byteOffset ++
            rawBufferLoad mem payloadRingEntryOffset 32 m (byteOffset + 16) := fun m => rawBufferLoad_add _ _ _ _ _ _
      obtain rfl | rfl : numElements = 3 ∨ numElements = 4 := by omega
      · -- `64vec3`: the second load's two dwords padded to four, then six dwords taken
        simp only [Nat.reduceMul, Nat.reduceSub, if_pos, show [0, 1, 2, 3, 4, 5, 6, 7].take 6 = List.range 6 from rfl,
          show [0, 1, 2, 3] = List.range 4 from rfl]
        have hpad : shuffleVector (rawBufferLoad mem payloadRingEntryOffset 32 2 (byteOffset + 16))
            (poisonValue (rawBufferLoad mem payloadRingEntryOffset 32 2 (byteOffset + 16)).length) (List.range 4) =
              rawBufferLoad mem payloadRingEntryOffset 32 2 (byteOffset + 16) ++ poisonValue 2 := by
          rw [shuffleVector_take (by simp [poisonValue]), List.take_of_length_le (by simp [poisonValue]),
            length_rawBufferLoad]
        rw [hpad, shuffleVector_take (by simp [poisonValue]), ← List.append_assoc, List.take_left' (by simp),
          show min 6 4 = 4 from rfl, ← hsplit 2]
      · simp only [Nat.reduceMul, Nat.reduceSub, show [0, 1, 2, 3, 4, 5, 6, 7].take 8 = List.range 8 from rfl]
        rw [if_neg (by decide), shuffleVector_take (by simp), List.take_of_length_le (by simp),
          show min 8 4 = 4 from rfl, ← hsplit 4]
    · rw [Nat.min_eq_left (by omega)]
  case isFalse h64 =>
    split
    case isTrue hsmall =>
      rw [rawBufferLoad_eq_map]
      refine List.map_congr_left fun i _ => ?_
      rw [readTaskPayload_of_ne mem _ h64 (by simp), elemByteOffset_eq hsmall.1]
      rfl
    case isFalse => rfl

theorem writeTaskPayload_supported (bitWidth byteOffset : Nat) {writeValue : List Nat} (h : writeValue.length ≤ 4) :
    (writeTaskPayload bitWidth writeValue byteOffset).Forall RawBufferStore.Supported := by
  rw [List.forall_iff_forall_mem, writeTaskPayload]
  dsimp only
  split
  case isTrue h64 =>
    simp only [writeTaskPayload_of_ne (show (32 : Nat) ≠ 64 by decide) (by simp)]
    split
    · simp [RawBufferStore.Supported]
    · simp [RawBufferStore.Supported]; omega
  case isFalse h64 =>
    split
    case isTrue hsmall =>
      simp only [List.mem_flatMap, writeTaskPayload_scalar h64, List.mem_singleton]
      rintro s ⟨i, -, rfl⟩
      exact ⟨h64, by simp, by simp⟩
    case isFalse hsmall =>
      simp only [List.mem_singleton]
      rintro s rfl
      exact ⟨h64, h, fun h' => by simp only [h', true_and, not_lt] at hsmall; exact hsmall⟩

/-- `writeTaskPayload` and `readTaskPayload` keep the meaning of the typed
access they lower, for the at most four elements the source asserts: the
stores leave the ring as the typed store would, and the read returns the typed
load. -/
theorem taskPayload_lowering (payloadRingEntryOffset : Nat) (mem : Nat → Nat) (bitWidth byteOffset : Nat)
    {writeValue : List Nat} {numElements : Nat} (hw : writeValue.length ≤ 4) (hr : numElements ≤ 4) :
    runStores payloadRingEntryOffset mem (writeTaskPayload bitWidth writeValue byteOffset) =
        rawBufferStore payloadRingEntryOffset mem ⟨bitWidth, writeValue, byteOffset⟩ ∧
      readTaskPayload mem payloadRingEntryOffset bitWidth numElements byteOffset =
        rawBufferLoad mem payloadRingEntryOffset bitWidth numElements byteOffset :=
  ⟨runStores_writeTaskPayload _ _ _ _ hw, readTaskPayload_eq_rawBufferLoad _ _ _ _ hr⟩

theorem taskPayload_lowering_vec3 :
    runStores 0 (fun _ => 0) (writeTaskPayload 64 [1, 2, 3] 0) = rawBufferStore 0 (fun _ => 0) ⟨64, [1, 2, 3], 0⟩ ∧
      readTaskPayload (fun _ => 0) 0 64 3 0 = rawBufferLoad (fun _ => 0) 0 64 3 0 :=
  taskPayload_lowering 0 (fun _ => 0) 64 0 (show [1, 2, 3].length ≤ 4 by decide) (by decide)

/-- The ring after a trace of raw stores, each tagged with the ring entry index
of the task workgroup that issues it, in the order they reach memory. -/
def runTrace (numRecords payloadRingEntrySize : Nat) (mem : Nat → Nat) (trace : List (Nat × RawBufferStore)) :
    Nat → Nat :=
  trace.foldl (fun mem p => rawBufferStore (ringEntryOffset p.1 numRecords payloadRingEntrySize) mem p.2) mem

@[simp] theorem runTrace_cons (numRecords payloadRingEntrySize : Nat) (mem : Nat → Nat) (p : Nat × RawBufferStore)
    (trace : List (Nat × RawBufferStore)) :
    runTrace numRecords payloadRingEntrySize mem (p :: trace) =
      runTrace numRecords payloadRingEntrySize
        (rawBufferStore (ringEntryOffset p.1 numRecords payloadRingEntrySize) mem p.2) trace := rfl

section Ring

variable {numRecords payloadRingEntrySize k : Nat}
  (hsize : 0 < payloadRingEntrySize) (hrecords : numRecords = 2 ^ k * payloadRingEntrySize)
include hsize hrecords

theorem rawBufferStore_other_entry {ringEntryIndex ringEntryIndex' a : Nat} (mem : Nat → Nat) (s : RawBufferStore)
    (hne : ringEntryIndex' % 2 ^ k ≠ ringEntryIndex % 2 ^ k)
    (hfit : s.byteOffset + s.writeValue.length * (s.bitWidth / 8) ≤ payloadRingEntrySize)
    (ha₁ : ringEntryIndex % 2 ^ k * payloadRingEntrySize ≤ a)
    (ha₂ : a < ringEntryIndex % 2 ^ k * payloadRingEntrySize + payloadRingEntrySize) :
    rawBufferStore (ringEntryOffset ringEntryIndex' numRecords payloadRingEntrySize) mem s a = mem a := by
  rw [ringEntryOffset_eq hsize hrecords, rawBufferStore]
  apply storeBytes_of_not_mem
  rw [length_valueBytes]
  rcases Nat.lt_or_gt_of_ne hne with hlt | hlt
  · have := Nat.mul_le_mul_right payloadRingEntrySize (Nat.succ_le_of_lt hlt)
    rw [Nat.succ_mul] at this
    omega
  · have := Nat.mul_le_mul_right payloadRingEntrySize (Nat.succ_le_of_lt hlt)
    rw [Nat.succ_mul] at this
    omega

theorem runTrace_entry (mem : Nat → Nat) (trace : List (Nat × RawBufferStore)) {ringEntryIndex a : Nat}
    (hothers : ∀ p ∈ trace, p.1 % 2 ^ k ≠ ringEntryIndex % 2 ^ k →
      p.2.byteOffset + p.2.writeValue.length * (p.2.bitWidth / 8) ≤ payloadRingEntrySize)
    (ha₁ : ringEntryIndex % 2 ^ k * payloadRingEntrySize ≤ a)
    (ha₂ : a < ringEntryIndex % 2 ^ k * payloadRingEntrySize + payloadRingEntrySize) :
    runTrace numRecords payloadRingEntrySize mem trace a =
      runStores (ringEntryOffset ringEntryIndex numRecords payloadRingEntrySize) mem
        ((trace.filter fun p => p.1 % 2 ^ k = ringEntryIndex % 2 ^ k).map Prod.snd) a := by
  induction trace generalizing mem with
  | nil => rfl
  | cons p trace ih =>
    have htail := ih (rawBufferStore (ringEntryOffset p.1 numRecords payloadRingEntrySize) mem p.2)
      fun q hq => hothers q (List.mem_cons_of_mem _ hq)
    rw [runTrace_cons, htail]
    by_cases hp : p.1 % 2 ^ k = ringEntryIndex % 2 ^ k
    · rw [List.filter_cons_of_pos (by simpa using hp), List.map_cons, runStores_cons, ringEntryOffset_eq hsize hrecords,
        ringEntryOffset_eq hsize hrecords p.1, hp]
    · rw [List.filter_cons_of_neg (by simpa using hp)]
      exact runStores_congr (rawBufferStore_other_entry hsize hrecords mem p.2 hp
        (hothers p (List.mem_cons_self _ _) hp) ha₁ ha₂) _ _

/-- The payload a mesh workgroup reads from its ring entry is the one its task
workgroup wrote, however the raw stores of the task workgroups at the other
entries interleave with the task workgroup's own, as long as each stays in its
entry. -/
theorem taskPayload_roundTrip (mem : Nat → Nat) (trace : List (Nat × RawBufferStore))
    (ringEntryIndex bitWidth byteOffset : Nat) {writeValue : List Nat}
    (hmine : (trace.filter fun p => p.1 % 2 ^ k = ringEntryIndex % 2 ^ k).map Prod.snd =
      writeTaskPayload bitWidth writeValue byteOffset)
    (hothers : ∀ p ∈ trace, p.1 % 2 ^ k ≠ ringEntryIndex % 2 ^ k →
      p.2.byteOffset + p.2.writeValue.length * (p.2.bitWidth / 8) ≤ payloadRingEntrySize)
    (hfit : byteOffset + writeValue.length * (bitWidth / 8) ≤ payloadRingEntrySize)
    (hlen : writeValue.length ≤ 4) (hwidth : bitWidth % 8 = 0) (hvalue : ∀ e ∈ writeValue, e < 2 ^ bitWidth) :
    readTaskPayload (runTrace numRecords payloadRingEntrySize mem trace)
      (ringEntryOffset ringEntryIndex numRecords payloadRingEntrySize) bitWidth writeValue.length byteOffset =
        writeValue := by
  have heo := ringEntryOffset_eq hsize hrecords ringEntryIndex
  have hpow : 256 ^ (bitWidth / 8) = 2 ^ bitWidth := by
    rw [show (256 : Nat) = 2 ^ 8 from rfl, ← pow_mul, Nat.mul_div_cancel' (Nat.dvd_of_mod_eq_zero hwidth)]
  rw [readTaskPayload_eq_rawBufferLoad _ _ _ _ hlen,
    rawBufferLoad_congr fun a h₁ h₂ => runTrace_entry hsize hrecords mem trace hothers (by omega) (by omega),
    hmine, runStores_writeTaskPayload _ _ _ _ hlen, rawBufferStore, rawBufferLoad_storeBytes]
  conv_rhs => rw [← List.map_id writeValue]
  exact List.map_congr_left fun e he => Nat.mod_eq_of_lt (hpow ▸ hvalue e he)

end Ring

theorem taskPayload_roundTrip_interleaved :
    readTaskPayload (runTrace 32 16 (fun _ => 0)
        [(1, ⟨16, [1], 2⟩), (2, ⟨32, [7], 12⟩), (1, ⟨16, [2], 4⟩), (1, ⟨16, [3], 6⟩)])
      (ringEntryOffset 1 32 16) 16 [1, 2, 3].length 2 = [1, 2, 3] :=
  taskPayload_roundTrip (k := 1) (by norm_num) (by norm_num) _ _ 1 16 2
    (by rw [writeTaskPayload_scalarize (by decide) (by decide)]; rfl) (by decide) (by decide) (by decide) (by decide)
    (by decide)

end NggPrimShader.Mesh.Payload
