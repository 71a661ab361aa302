import NggPrimShader.Xfb.Reservation

/-! The transform-feedback stores of a draw: `.exportXfbOutput` of `processSwXfb`
and `.exportXfbOutputInStream[N]` of `processSwXfbWithGs`, element by element.
When the subgroups reserve in order, what a draw stores into an active buffer is
the longest prefix of its stream's primitives that fits in every buffer of the
stream, recorded contiguously from the buffer's offset plus its counter at the
start of the draw. -/
namespace NggPrimShader.Xfb.Export

open NggPrimShader.Basic NggPrimShader.Xfb.Reservation

structure ElementStore where
  buffer : BufferId
  offset : Nat
  value : Nat
  deriving DecidableEq, Repr

def tbufferStore (buffer : BufferId) (bytes : Nat) : Nat → List Nat → List ElementStore
  | _, [] => []
  | offset, x :: data => ⟨buffer, offset, x⟩ :: tbufferStore buffer bytes (offset + bytes) data

theorem tbufferStore_append (buffer : BufferId) (bytes : Nat) :
    ∀ (offset : Nat) (data data' : List Nat), tbufferStore buffer bytes offset (data ++ data') =
      tbufferStore buffer bytes offset data ++ tbufferStore buffer bytes (offset + data.length * bytes) data'
  | offset, [], data' => by simp [tbufferStore]
  | offset, x :: data, data' => by
    rw [List.cons_append, tbufferStore, tbufferStore, tbufferStore_append buffer bytes _ data data',
      List.cons_append, List.length_cons, Nat.succ_mul, Nat.add_assoc, Nat.add_comm bytes]

theorem filter_tbufferStore (buffer i : BufferId) (bytes : Nat) :
    ∀ (offset : Nat) (data : List Nat), (tbufferStore buffer bytes offset data).filter (·.buffer = i) =
      if buffer = i then tbufferStore buffer bytes offset data else []
  | _, [] => by simp [tbufferStore]
  | offset, x :: data => by
    rw [tbufferStore, List.filter_cons, filter_tbufferStore buffer i bytes _ data]
    by_cases h : buffer = i <;> simp [h]

/-- The stores of one output value at byte `offset`. The hardware has no 16vec3
store, so a 16vec3 goes out as a 16vec2 and a half 4 bytes on. -/
def storeXfbOutput (o : XfbOutputExport) (offset : Nat) (value : List Nat) : List ElementStore :=
  if o.is16bit && o.numElements == 3 then
    tbufferStore o.xfbBuffer 2 offset ((o.convert value).take 2) ++
      tbufferStore o.xfbBuffer 2 (offset + 2 * 2) ((o.convert value).drop 2)
  else tbufferStore o.xfbBuffer o.elementBytes offset (o.convert value)

theorem storeXfbOutput_eq (o : XfbOutputExport) (offset : Nat) (value : List Nat) :
    storeXfbOutput o offset value = tbufferStore o.xfbBuffer o.elementBytes offset (o.convert value) := by
  unfold storeXfbOutput
  split_ifs with h
  · have h16 : o.is16bit = true := (Bool.and_eq_true_iff.mp h).1
    conv_rhs => rw [← List.take_append_drop 2 (o.convert value)]
    rw [tbufferStore_append, XfbOutputExport.elementBytes, if_pos h16]
    rcases Nat.lt_or_ge (o.convert value).length 2 with hl | hl
    · simp [List.drop_eq_nil_of_le hl.le, tbufferStore]
    · rw [List.length_take, min_eq_left hl]
  · rfl

section Export

variable (cfg : XfbConfig) (outputs : List XfbOutputExport)

/-- The stores of lanes `t < numPrimsToWrite` for the outputs `keep` selects: for
each vertex `v` of the lane's primitive and each selected output `j`, the value
`fetch t v j` the lane read, at `xfbStoreOffset`. -/
def exportXfbStores (keep : XfbOutputExport → Bool) (dwordsWritten : BufferId → Nat)
    (numPrimsToWrite : Nat) (fetch : Nat → Nat → Nat → List Nat) : List ElementStore :=
  (List.range numPrimsToWrite).flatMap fun t => (List.range cfg.vertsPerPrim).flatMap fun v =>
    (outputs.enum.filter fun jo => keep jo.2).flatMap fun jo =>
      storeXfbOutput jo.2 (xfbStoreOffset cfg jo.2 (dwordsWritten jo.2.xfbBuffer) t v) (fetch t v jo.1)

def exportXfbOutput : (BufferId → Nat) → Nat → (Nat → Nat → Nat → List Nat) → List ElementStore :=
  exportXfbStores cfg outputs fun _ => true

def exportXfbOutputInStream (s : StreamId) :
    (BufferId → Nat) → Nat → (Nat → Nat → Nat → List Nat) → List ElementStore :=
  exportXfbStores cfg outputs fun o => o.streamId == s

theorem exportXfbStores_congr {keep keep' : XfbOutputExport → Bool} (h : ∀ o ∈ outputs, keep o = keep' o) :
    exportXfbStores cfg outputs keep = exportXfbStores cfg outputs keep' := by
  have hf : outputs.enum.filter (fun jo => keep jo.2) = outputs.enum.filter (fun jo => keep' jo.2) :=
    List.filter_congr fun jo hjo => h jo.2 (List.snd_mem_of_mem_enum hjo)
  unfold exportXfbStores
  rw [hf]

theorem exportXfbOutputInStream_eq_exportXfbOutput {s : StreamId} (h : ∀ o ∈ outputs, o.streamId = s) :
    exportXfbOutputInStream cfg outputs s = exportXfbOutput cfg outputs :=
  exportXfbStores_congr cfg outputs fun o ho => by simp [h o ho]

abbrev Prim := Nat → Nat → List Nat

def primitiveStores (i : BufferId) (base : Nat) (prim : Prim) : List ElementStore :=
  (List.range cfg.vertsPerPrim).flatMap fun v =>
    (outputs.enum.filter fun jo => jo.2.xfbBuffer = i).flatMap fun jo =>
      tbufferStore i jo.2.elementBytes (base + v * (cfg.buffers i).stride + jo.2.xfbOffset)
        (jo.2.convert (prim v jo.1))

def captureFrom (i : BufferId) : Nat → List Prim → List ElementStore
  | _, [] => []
  | base, prim :: prims => primitiveStores cfg outputs i base prim ++
      captureFrom i (base + cfg.vertsPerPrim * (cfg.buffers i).stride) prims

/-- What buffer `i` receives when it records `prims` from its offset plus its
counter `W0` at the start of the draw. -/
def captureStores (W0 : BufferId → Nat) (i : BufferId) (prims : List Prim) : List ElementStore :=
  captureFrom cfg outputs i (4 * ((cfg.buffers i).bufferOffset + W0 i)) prims

theorem captureFrom_append (i : BufferId) :
    ∀ (base : Nat) (prims prims' : List Prim), captureFrom cfg outputs i base (prims ++ prims') =
      captureFrom cfg outputs i base prims ++
        captureFrom cfg outputs i (base + prims.length * (cfg.vertsPerPrim * (cfg.buffers i).stride)) prims'
  | base, [], prims' => by simp [captureFrom]
  | base, prim :: prims, prims' => by
    rw [List.cons_append, captureFrom, captureFrom, captureFrom_append i _ prims prims', List.append_assoc,
      List.length_cons, Nat.succ_mul, Nat.add_assoc, Nat.add_comm (cfg.vertsPerPrim * _)]

theorem getElem_of_mem_enum {α : Type} {l : List α} {jo : Nat × α} (h : jo ∈ l.enum) :
    ∃ hj : jo.1 < l.length, l[jo.1] = jo.2 :=
  ⟨(List.mem_enum h).1, (List.mem_enum h).2.symm⟩

theorem primitiveStores_congr {i : BufferId} {base : Nat} {prim prim' : Prim}
    (h : ∀ v < cfg.vertsPerPrim, ∀ j (hj : j < outputs.length), outputs[j].xfbBuffer = i → prim v j = prim' v j) :
    primitiveStores cfg outputs i base prim = primitiveStores cfg outputs i base prim' :=
  List.flatMap_congr fun v hv => List.flatMap_congr fun jo hjo => by
    obtain ⟨hjo, hb⟩ := List.mem_filter.mp hjo
    obtain ⟨hj, hget⟩ := getElem_of_mem_enum hjo
    rw [h v (List.mem_range.mp hv) jo.1 hj (by rw [hget]; exact of_decide_eq_true hb)]

theorem captureFrom_congr (i : BufferId) : ∀ (base : Nat) (prims prims' : List Prim),
    prims.length = prims'.length → (∀ m (h : m < prims.length) (h' : m < prims'.length),
      ∀ v < cfg.vertsPerPrim, ∀ j (hj : j < outputs.length), outputs[j].xfbBuffer = i →
        prims[m] v j = prims'[m] v j) →
    captureFrom cfg outputs i base prims = captureFrom cfg outputs i base prims'
  | _, [], [], _, _ => rfl
  | base, p :: prims, p' :: prims', hl, h => by
    rw [captureFrom, captureFrom, primitiveStores_congr cfg outputs (show ∀ v < cfg.vertsPerPrim, ∀ j
        (hj : j < outputs.length), outputs[j].xfbBuffer = i → p v j = p' v j from h 0 (by simp) (by simp)),
      captureFrom_congr i _ prims prims' (by simpa using hl) fun m hm hm' => h (m + 1) (by simp [hm]) (by simp [hm'])]

theorem captureFrom_map_range (i : BufferId) (base : Nat) (fetch : Nat → Prim) (n : Nat) :
    captureFrom cfg outputs i base ((List.range n).map fetch) = (List.range n).flatMap fun t =>
      primitiveStores cfg outputs i (base + t * (cfg.vertsPerPrim * (cfg.buffers i).stride)) (fetch t) := by
  induction n with
  | zero => rfl
  | succ n ih =>
    rw [List.range_succ, List.map_append, captureFrom_append, ih, List.flatMap_append, List.length_map,
      List.length_range]
    simp [captureFrom]

theorem flatMap_filter_ite {α β : Type} (l : List α) (keep sel : α → Bool) (g : α → List β)
    (h : ∀ a ∈ l, sel a → keep a) :
    (l.filter keep).flatMap (fun a => if sel a then g a else []) = (l.filter sel).flatMap g := by
  induction l with
  | nil => rfl
  | cons a l ih =>
    have ih' := ih fun b hb => h b (List.mem_cons_of_mem _ hb)
    by_cases hs : sel a
    · simp [List.filter_cons, h a (List.mem_cons_self _ _) hs, hs, ih']
    · by_cases hk : keep a <;> simp [List.filter_cons, hk, hs, ih']

variable {cfg outputs}

theorem filter_exportXfbStores {keep : XfbOutputExport → Bool} {i : BufferId}
    (hstride : (cfg.buffers i).stride % 4 = 0)
    (hkeep : ∀ o ∈ outputs, o.xfbBuffer = i → keep o ∧ o.xfbOffset + o.byteSize ≤ (cfg.buffers i).stride)
    {dwordsWritten : BufferId → Nat} {n : Nat}
    (hroom : n * dwordsPerPrim cfg i ≤
      (cfg.buffers i).bufferSizeInDwords - ((cfg.buffers i).bufferOffset + dwordsWritten i))
    (fetch : Nat → Prim) :
    (exportXfbStores cfg outputs keep dwordsWritten n fetch).filter (·.buffer = i) =
      captureFrom cfg outputs i (4 * ((cfg.buffers i).bufferOffset + dwordsWritten i))
        ((List.range n).map fetch) := by
  rw [captureFrom_map_range, exportXfbStores, List.filter_flatMap]
  refine List.flatMap_congr fun t ht => ?_
  rw [List.filter_flatMap, primitiveStores]
  refine List.flatMap_congr fun v hv => ?_
  rw [List.filter_flatMap]
  simp only [storeXfbOutput_eq, filter_tbufferStore]
  rw [← flatMap_filter_ite _ (fun jo => keep jo.2) _ _ fun jo hjo hs =>
    (hkeep jo.2 (List.snd_mem_of_mem_enum hjo) (of_decide_eq_true hs)).1]
  refine List.flatMap_congr fun jo hjo => ?_
  by_cases hb : jo.2.xfbBuffer = i
  · have hfit := (hkeep jo.2 (List.snd_mem_of_mem_enum (List.mem_filter.mp hjo).1) hb).2
    subst hb
    rw [if_pos rfl, if_pos (decide_eq_true rfl), xfbStoreOffset_eq hstride hfit hroom
      (List.mem_range.mp ht) (List.mem_range.mp hv)]
    congr 1
    ring
  · simp [hb]

theorem filter_exportXfbStores_eq_nil {keep : XfbOutputExport → Bool} {i : BufferId}
    (hkeep : ∀ o ∈ outputs, keep o → o.xfbBuffer ≠ i) (dwordsWritten : BufferId → Nat) (n : Nat)
    (fetch : Nat → Prim) :
    (exportXfbStores cfg outputs keep dwordsWritten n fetch).filter (·.buffer = i) = [] := by
  simp only [exportXfbStores, List.filter_flatMap, storeXfbOutput_eq, filter_tbufferStore,
    List.flatMap_eq_nil_iff, List.mem_filter, List.mem_range]
  intro t _ v _ jo hjo
  rw [if_neg (hkeep jo.2 (List.snd_mem_of_mem_enum hjo.1) hjo.2)]

end Export

section Serial

variable (cfg : XfbConfig) (W0 : BufferId → Nat)

def PrefixFits (s : StreamId) (m : Nat) : Prop :=
  ∀ i ∈ activeBuffers cfg, cfg.bufferToStream i = s →
    m * dwordsPerPrim cfg i ≤ (cfg.buffers i).bufferSizeInDwords - ((cfg.buffers i).bufferOffset + W0 i)

instance (s : StreamId) (m : Nat) : Decidable (PrefixFits cfg W0 s m) :=
  inferInstanceAs (Decidable (∀ i ∈ activeBuffers cfg, _))

/-- `M` primitives are the longest prefix of a stream's `total` that fits. -/
structure LongestFit (s : StreamId) (total M : Nat) : Prop where
  le_total : M ≤ total
  fits : PrefixFits cfg W0 s M
  longest : ∀ m ≤ total, PrefixFits cfg W0 s m → m ≤ M

variable (primCounts : Nat → StreamId → Nat)

def serialPrims (k : Nat) : StreamId → Nat :=
  (reserve cfg (primCounts k) (serialDwordsWritten cfg primCounts W0 k)).1

def writtenBefore (s : StreamId) : Nat → Nat
  | 0 => 0
  | k + 1 => writtenBefore s k + serialPrims cfg W0 primCounts k s

def countBefore (s : StreamId) : Nat → Nat
  | 0 => 0
  | k + 1 => countBefore s k + primCounts k s

variable {cfg W0 primCounts}

theorem PrefixFits.mono {s : StreamId} {m m' : Nat} (h : PrefixFits cfg W0 s m) (hm : m' ≤ m) :
    PrefixFits cfg W0 s m' :=
  fun i hi hs => (Nat.mul_le_mul_right _ hm).trans (h i hi hs)

theorem serialDwordsWritten_eq (hW0 : CountersInRange cfg W0) {i : BufferId} (hi : i ∈ activeBuffers cfg) :
    ∀ k, serialDwordsWritten cfg primCounts W0 k i =
      W0 i + writtenBefore cfg W0 primCounts (cfg.bufferToStream i) k * dwordsPerPrim cfg i
  | 0 => by simp [serialDwordsWritten, writtenBefore]
  | k + 1 => by
    rw [serialDwordsWritten, reserve_snd_eq (serialDwordsWritten_inRange cfg primCounts hW0 k) hi,
      serialDwordsWritten_eq hW0 hi k, writtenBefore, Nat.add_mul, Nat.add_assoc]
    rfl

section Spec

variable (primCounts) (hW0 : CountersInRange cfg W0) (hd : ∀ i ∈ activeBuffers cfg, 0 < dwordsPerPrim cfg i)
include hW0 hd

theorem le_primsFit_iff {i : BufferId} (hi : i ∈ activeBuffers cfg) {k : Nat}
    (hR : writtenBefore cfg W0 primCounts (cfg.bufferToStream i) k * dwordsPerPrim cfg i ≤
      (cfg.buffers i).bufferSizeInDwords - ((cfg.buffers i).bufferOffset + W0 i)) (n : Nat) :
    n ≤ primsFit cfg i (serialDwordsWritten cfg primCounts W0 k i) ↔
      (writtenBefore cfg W0 primCounts (cfg.bufferToStream i) k + n) * dwordsPerPrim cfg i ≤
        (cfg.buffers i).bufferSizeInDwords - ((cfg.buffers i).bufferOffset + W0 i) := by
  rw [primsFit, Nat.le_div_iff_mul_le (hd i hi), serialDwordsWritten_eq hW0 hi, Nat.add_mul]
  omega

theorem serialPrims_spec {k : Nat} {s : StreamId}
    (hR : PrefixFits cfg W0 s (writtenBefore cfg W0 primCounts s k)) :
    serialPrims cfg W0 primCounts k s ≤ primCounts k s ∧
      PrefixFits cfg W0 s (writtenBefore cfg W0 primCounts s k + serialPrims cfg W0 primCounts k s) ∧
      (serialPrims cfg W0 primCounts k s < primCounts k s →
        ¬ PrefixFits cfg W0 s (writtenBefore cfg W0 primCounts s k + serialPrims cfg W0 primCounts k s + 1)) := by
  have hn : serialPrims cfg W0 primCounts k s =
      clampedPrims cfg (primCounts k) (serialDwordsWritten cfg primCounts W0 k) s :=
    reserve_fst_eq (serialDwordsWritten_inRange cfg primCounts hW0 k) s
  have hroom : ∀ i ∈ activeBuffers cfg, cfg.bufferToStream i = s → ∀ n,
      n ≤ primsFit cfg i (serialDwordsWritten cfg primCounts W0 k i) ↔
        (writtenBefore cfg W0 primCounts s k + n) * dwordsPerPrim cfg i ≤
          (cfg.buffers i).bufferSizeInDwords - ((cfg.buffers i).bufferOffset + W0 i) := by
    rintro i hi rfl
    exact le_primsFit_iff primCounts hW0 hd hi (hR i hi rfl)
  rw [hn, clampedPrims]
  refine ⟨foldl_min_le_init _ _, fun i hi hs => (hroom i hi hs _).mp
    (foldl_min_le (List.mem_filter.mpr ⟨hi, decide_eq_true hs⟩) _), fun hlt hfits => ?_⟩
  rcases @foldl_min_eq_or (fun i => primsFit cfg i (serialDwordsWritten cfg primCounts W0 k i))
    ((activeBuffers cfg).filter fun i => cfg.bufferToStream i = s) (primCounts k s) with h | ⟨i, hi, h⟩
  · exact absurd h (Nat.ne_of_lt hlt)
  · obtain ⟨hi, hs⟩ := List.mem_filter.mp hi
    have hf := hfits i hi (of_decide_eq_true hs)
    rw [Nat.add_assoc] at hf
    have := (hroom i hi (of_decide_eq_true hs) _).mpr hf
    omega

theorem writtenBefore_spec (s : StreamId) : ∀ k,
    writtenBefore cfg W0 primCounts s k ≤ countBefore primCounts s k ∧
      PrefixFits cfg W0 s (writtenBefore cfg W0 primCounts s k) ∧
      (writtenBefore cfg W0 primCounts s k < countBefore primCounts s k →
        ¬ PrefixFits cfg W0 s (writtenBefore cfg W0 primCounts s k + 1))
  | 0 => ⟨le_rfl, fun i _ _ => by simp [writtenBefore], fun h => absurd h (lt_irrefl 0)⟩
  | k + 1 => by
    obtain ⟨hle, hfits, hmax⟩ := writtenBefore_spec s k
    obtain ⟨hn, hfn, hmaxn⟩ := serialPrims_spec primCounts hW0 hd hfits
    simp only [writtenBefore, countBefore]
    refine ⟨by omega, hfn, fun hlt => ?_⟩
    rcases Nat.lt_or_ge (serialPrims cfg W0 primCounts k s) (primCounts k s) with h | h
    · exact hmaxn h
    · have hRC : writtenBefore cfg W0 primCounts s k < countBefore primCounts s k := by omega
      have hn0 : serialPrims cfg W0 primCounts k s = 0 :=
        Nat.eq_zero_of_not_pos fun hpos => hmax hRC (hfn.mono (by omega))
      rw [hn0, Nat.add_zero]
      exact hmax hRC

theorem serialPrims_eq_zero {s : StreamId} {k : Nat}
    (hlt : writtenBefore cfg W0 primCounts s k < countBefore primCounts s k) :
    serialPrims cfg W0 primCounts k s = 0 := by
  obtain ⟨-, hfits, hmax⟩ := writtenBefore_spec primCounts hW0 hd s k
  obtain ⟨-, hfn, -⟩ := serialPrims_spec primCounts hW0 hd hfits
  exact Nat.eq_zero_of_not_pos fun hpos => hmax hlt (hfn.mono (by omega))

theorem serialPrims_le (s : StreamId) (k : Nat) : serialPrims cfg W0 primCounts k s ≤ primCounts k s :=
  (serialPrims_spec primCounts hW0 hd (writtenBefore_spec primCounts hW0 hd s k).2.1).1

theorem longestFit_writtenBefore (s : StreamId) (N : Nat) :
    LongestFit cfg W0 s (countBefore primCounts s N) (writtenBefore cfg W0 primCounts s N) := by
  obtain ⟨hle, hfits, hmax⟩ := writtenBefore_spec primCounts hW0 hd s N
  refine ⟨hle, hfits, fun m hm hfm => ?_⟩
  rcases Nat.lt_or_ge (writtenBefore cfg W0 primCounts s N) (countBefore primCounts s N) with h | h
  · exact Nat.le_of_not_lt fun hlt => hmax h (hfm.mono hlt)
  · omega

end Spec

end Serial

section Draw

variable (cfg : XfbConfig) (outputs : List XfbOutputExport)

def streamPrims (prims : Nat → StreamId → List Prim) (s : StreamId) (N : Nat) : List Prim :=
  (List.range N).flatMap fun k => prims k s

/-- What subgroups `0 .. N-1` of a draw without API GS store: subgroup `k` runs
`.exportXfbOutput` from its thread 0's `dwordsWritten` and `numPrimsToWrite`,
which `XfbStats` hands to every lane, lane `t` reading primitive `fetch k t`. -/
def drawStores {N : Nat} (d : Draw N) (fetch : Nat → Nat → Prim) : List ElementStore :=
  (List.finRange N).flatMap fun k =>
    exportXfbOutput cfg outputs (d.thread0 k).dwordsWritten ((d.thread0 k).numPrimsToWrite 0) (fetch k)

def drawStoresWithGs (streams : List StreamId) {N : Nat} (d : Draw N) (fetch : Nat → StreamId → Nat → Prim) :
    List ElementStore :=
  (List.finRange N).flatMap fun k => streams.flatMap fun s =>
    exportXfbOutputInStream cfg outputs s (d.thread0 k).dwordsWritten ((d.thread0 k).numPrimsToWrite s)
      (fetch k s)

/-- Buffer `i` holds, from its offset plus its counter `W0` at the start of the
draw, the longest prefix of `seq` that fits in every buffer of its stream. -/
def CapturesLongestFit (W0 : BufferId → Nat) (stores : List ElementStore) (i : BufferId) (seq : List Prim) :
    Prop :=
  ∃ M, LongestFit cfg W0 (cfg.bufferToStream i) seq.length M ∧
    stores.filter (·.buffer = i) = captureStores cfg outputs W0 i (seq.take M)

theorem flatMap_captureFrom (i : BufferId) (base : Nat) (L : Nat → List Prim) : ∀ N,
    ((List.range N).flatMap fun k => captureFrom cfg outputs i
        (base + ((List.range k).flatMap L).length * (cfg.vertsPerPrim * (cfg.buffers i).stride)) (L k)) =
      captureFrom cfg outputs i base ((List.range N).flatMap L)
  | 0 => rfl
  | N + 1 => by
    rw [List.range_succ, List.flatMap_append, List.flatMap_append, flatMap_captureFrom i base L N,
      captureFrom_append, List.flatMap_singleton, List.flatMap_singleton]

variable {cfg outputs} {W0 : BufferId → Nat} {prims : Nat → StreamId → List Prim}

theorem streamPrims_succ (s : StreamId) (N : Nat) :
    streamPrims prims s (N + 1) = streamPrims prims s N ++ prims N s := by
  rw [streamPrims, List.range_succ, List.flatMap_append, List.flatMap_singleton]
  rfl

theorem length_streamPrims (s : StreamId) : ∀ N,
    (streamPrims prims s N).length = countBefore (fun k s => (prims k s).length) s N
  | 0 => rfl
  | N + 1 => by
    rw [streamPrims_succ, List.length_append, length_streamPrims s N]
    rfl

theorem flatMap_range_eq_finRange {β : Type} (N : Nat) (g : Nat → List β) :
    (List.range N).flatMap g = (List.finRange N).flatMap fun k => g k := by
  rw [← List.map_coe_finRange, List.flatMap_map]

theorem flatMap_eq_of_ne {α β : Type} [DecidableEq α] {l : List α} (hl : l.Nodup) {a : α} (ha : a ∈ l)
    {f : α → List β} (h : ∀ b ∈ l, b ≠ a → f b = []) : l.flatMap f = f a := by
  induction l with
  | nil => cases ha
  | cons b l ih =>
    rw [List.flatMap_cons]
    by_cases hb : b = a
    · subst hb
      rw [List.flatMap_eq_nil_iff.mpr fun c hc => h c (List.mem_cons_of_mem _ hc)
        fun hcb => (List.nodup_cons.mp hl).1 (hcb ▸ hc), List.append_nil]
    · rw [h b (List.mem_cons_self _ _) hb, List.nil_append,
        ih (List.nodup_cons.mp hl).2 ((List.mem_cons.mp ha).resolve_left (Ne.symm hb))
          fun c hc => h c (List.mem_cons_of_mem _ hc)]

theorem dwordsPerPrim_pos (hvpp : 0 < cfg.vertsPerPrim) {i : BufferId} (hstride : (cfg.buffers i).stride % 4 = 0)
    (hi : i ∈ activeBuffers cfg) : 0 < dwordsPerPrim cfg i := by
  have h4 : cfg.vertsPerPrim * (cfg.buffers i).stride = 4 * dwordsPerPrim cfg i := vertsPerPrim_mul_stride hstride
  have hS : 0 < (cfg.buffers i).stride := by simpa [XfbBuffer.active] using mem_activeBuffers.mp hi
  have := Nat.mul_pos hvpp hS
  omega

section Spec

variable (hW0 : CountersInRange cfg W0)
  (hd : ∀ i ∈ activeBuffers cfg, 0 < dwordsPerPrim cfg i)
include hW0 hd

theorem flatMap_take_serialPrims (s : StreamId) : ∀ N,
    ((List.range N).flatMap fun k => (prims k s).take (serialPrims cfg W0 (fun k s => (prims k s).length) k s)) =
      (streamPrims prims s N).take (writtenBefore cfg W0 (fun k s => (prims k s).length) s N)
  | 0 => rfl
  | N + 1 => by
    rw [List.range_succ, List.flatMap_append, flatMap_take_serialPrims s N, List.flatMap_singleton,
      streamPrims_succ, writtenBefore]
    have hlen : (streamPrims prims s N).length = countBefore (fun k s => (prims k s).length) s N :=
      length_streamPrims s N
    obtain ⟨hle, -, -⟩ := writtenBefore_spec (fun k s => (prims k s).length) hW0 hd s N
    rcases Nat.lt_or_ge (writtenBefore cfg W0 (fun k s => (prims k s).length) s N)
      (countBefore (fun k s => (prims k s).length) s N) with h | h
    · rw [serialPrims_eq_zero _ hW0 hd h, List.take_zero, List.append_nil, Nat.add_zero,
        List.take_append_of_le_length (by omega)]
    · rw [show writtenBefore cfg W0 (fun k s => (prims k s).length) s N = (streamPrims prims s N).length by omega,
        List.take_length, List.take_append_eq_append_take,
        List.take_of_length_le (Nat.le_add_right (streamPrims prims s N).length _), Nat.add_sub_cancel_left]

theorem length_flatMap_take_serialPrims (s : StreamId) (N : Nat) :
    ((List.range N).flatMap fun k => (prims k s).take (serialPrims cfg W0 (fun k s => (prims k s).length) k s)).length =
      writtenBefore cfg W0 (fun k s => (prims k s).length) s N := by
  rw [flatMap_take_serialPrims hW0 hd, List.length_take, length_streamPrims]
  exact min_eq_left (writtenBefore_spec _ hW0 hd s N).1

theorem capturesLongestFit_of_subgroups {N : Nat} (stores : Fin N → List ElementStore) {i : BufferId}
    (hk : ∀ k : Fin N, (stores k).filter (·.buffer = i) =
      captureFrom cfg outputs i (4 * ((cfg.buffers i).bufferOffset + W0 i) +
        ((List.range k).flatMap fun k => (prims k (cfg.bufferToStream i)).take
          (serialPrims cfg W0 (fun k s => (prims k s).length) k (cfg.bufferToStream i))).length *
          (cfg.vertsPerPrim * (cfg.buffers i).stride))
        ((prims k (cfg.bufferToStream i)).take
          (serialPrims cfg W0 (fun k s => (prims k s).length) k (cfg.bufferToStream i)))) :
    CapturesLongestFit cfg outputs W0 ((List.finRange N).flatMap stores) i
      (streamPrims prims (cfg.bufferToStream i) N) := by
  refine ⟨_, length_streamPrims (cfg.bufferToStream i) N ▸
    longestFit_writtenBefore (fun k s => (prims k s).length) hW0 hd (cfg.bufferToStream i) N, ?_⟩
  rw [List.filter_flatMap, List.flatMap_congr fun k _ => hk k, captureStores,
    ← flatMap_take_serialPrims hW0 hd, ← flatMap_captureFrom, flatMap_range_eq_finRange]

end Spec

section Subgroup

variable (hact : activeBuffers cfg ≠ []) (hvpp : 0 < cfg.vertsPerPrim)
  (hstride : ∀ i, (cfg.buffers i).stride % 4 = 0) (hW0 : CountersInRange cfg W0)
  {N : Nat} (σ : List (Fin N)) {d : Draw N}
  (hrun : runDraw cfg (Draw.init (fun k s => (prims k s).length) W0) σ = some d)
include hact hvpp hstride hW0 hrun

theorem filter_exportXfbStores_serial {k : Fin N} (hdone : (d.thread0 k).pc = 2 * (activeBuffers cfg).length)
    {keep : XfbOutputExport → Bool} {i : BufferId} (hi : i ∈ activeBuffers cfg)
    (hkeep : ∀ o ∈ outputs, o.xfbBuffer = i → keep o ∧ o.xfbOffset + o.byteSize ≤ (cfg.buffers i).stride)
    (fetch : Nat → Prim)
    (hfetch : ∀ t (h : t < (prims k (cfg.bufferToStream i)).length), ∀ v < cfg.vertsPerPrim,
      ∀ j (hj : j < outputs.length), outputs[j].xfbBuffer = i → fetch t v j = (prims k (cfg.bufferToStream i))[t] v j) :
    (exportXfbStores cfg outputs keep (d.thread0 k).dwordsWritten
        ((d.thread0 k).numPrimsToWrite (cfg.bufferToStream i)) fetch).filter (·.buffer = i) =
      captureFrom cfg outputs i (4 * ((cfg.buffers i).bufferOffset + W0 i) +
        ((List.range k).flatMap fun k => (prims k (cfg.bufferToStream i)).take
          (serialPrims cfg W0 (fun k s => (prims k s).length) k (cfg.bufferToStream i))).length *
          (cfg.vertsPerPrim * (cfg.buffers i).stride))
        ((prims k (cfg.bufferToStream i)).take
          (serialPrims cfg W0 (fun k s => (prims k s).length) k (cfg.bufferToStream i))) := by
  have hd : ∀ i ∈ activeBuffers cfg, 0 < dwordsPerPrim cfg i := fun i hi => dwordsPerPrim_pos hvpp (hstride i) hi
  obtain ⟨hdw, hn⟩ := finished_thread0 hact (fun i => by have := hW0 i; omega) σ hrun hdone
  replace hn : (d.thread0 k).numPrimsToWrite = serialPrims cfg W0 (fun k s => (prims k s).length) k := hn
  have hroom : (d.thread0 k).numPrimsToWrite (cfg.bufferToStream i) * dwordsPerPrim cfg i ≤
      (cfg.buffers i).bufferSizeInDwords - ((cfg.buffers i).bufferOffset + (d.thread0 k).dwordsWritten i) := by
    rw [hn, hdw i hi]
    exact reserve_room_le (serialDwordsWritten_inRange cfg (fun k s => (prims k s).length) hW0 k) hi
  have hle := serialPrims_le (fun k s => (prims k s).length) hW0 hd (cfg.bufferToStream i) k
  have hbase : 4 * ((cfg.buffers i).bufferOffset + (W0 i +
      writtenBefore cfg W0 (fun k s => (prims k s).length) (cfg.bufferToStream i) k * dwordsPerPrim cfg i)) =
      4 * ((cfg.buffers i).bufferOffset + W0 i) +
        writtenBefore cfg W0 (fun k s => (prims k s).length) (cfg.bufferToStream i) k *
          (cfg.vertsPerPrim * (cfg.buffers i).stride) := by
    rw [vertsPerPrim_mul_stride (hstride i)]
    ring
  rw [filter_exportXfbStores (hstride i) hkeep hroom, length_flatMap_take_serialPrims hW0 hd, hdw i hi,
    serialDwordsWritten_eq hW0 hi, hn, hbase]
  refine captureFrom_congr cfg outputs i _ _ _
    (by simp only [List.length_map, List.length_range, List.length_take]; omega) fun m h₁ h₂ => ?_
  simp only [List.getElem_map, List.getElem_range, List.getElem_take]
  exact hfetch m _

theorem capturesLongestFit_drawStores (hstream : ∀ i, cfg.bufferToStream i = 0)
    (hfits : ∀ o ∈ outputs, o.xfbOffset + o.byteSize ≤ (cfg.buffers o.xfbBuffer).stride)
    (hdone : ∀ k, (d.thread0 k).pc = 2 * (activeBuffers cfg).length) (fetch : Nat → Nat → Prim)
    (hfetch : ∀ k < N, ∀ t (h : t < (prims k 0).length), ∀ v < cfg.vertsPerPrim, ∀ j < outputs.length,
      fetch k t v j = (prims k 0)[t] v j)
    {i : BufferId} (hi : i ∈ activeBuffers cfg) :
    CapturesLongestFit cfg outputs W0 (drawStores cfg outputs d fetch) i (streamPrims prims 0 N) := by
  have hd : ∀ i ∈ activeBuffers cfg, 0 < dwordsPerPrim cfg i := fun i hi => dwordsPerPrim_pos hvpp (hstride i) hi
  have h0 := hstream i
  have h := capturesLongestFit_of_subgroups (i := i) hW0 hd (fun k => exportXfbOutput cfg outputs
    (d.thread0 k).dwordsWritten ((d.thread0 k).numPrimsToWrite 0) (fetch k)) fun k => by
      rw [exportXfbOutput, ← h0]
      refine filter_exportXfbStores_serial hact hvpp hstride hW0 σ hrun (hdone k) hi
        (fun o ho hb => ⟨rfl, hb ▸ hfits o ho⟩) (fetch k) fun t ht v hv j hj _ => ?_
      revert ht
      rw [h0]
      exact fun ht => hfetch k k.isLt t ht v hv j hj
  rwa [h0] at h

theorem capturesLongestFit_drawStoresWithGs
    (houtputs : ∀ o ∈ outputs, o.xfbOffset + o.byteSize ≤ (cfg.buffers o.xfbBuffer).stride ∧
      cfg.bufferToStream o.xfbBuffer = o.streamId)
    {streams : List StreamId} (hstreams : streams.Nodup)
    (hdone : ∀ k, (d.thread0 k).pc = 2 * (activeBuffers cfg).length) (fetch : Nat → StreamId → Nat → Prim)
    (hfetch : ∀ k < N, ∀ s t (h : t < (prims k s).length), ∀ v < cfg.vertsPerPrim,
      ∀ j (hj : j < outputs.length), outputs[j].streamId = s → fetch k s t v j = (prims k s)[t] v j)
    {i : BufferId} (hi : i ∈ activeBuffers cfg) (hs : cfg.bufferToStream i ∈ streams) :
    CapturesLongestFit cfg outputs W0 (drawStoresWithGs cfg outputs streams d fetch) i
      (streamPrims prims (cfg.bufferToStream i) N) := by
  have hd : ∀ i ∈ activeBuffers cfg, 0 < dwordsPerPrim cfg i := fun i hi => dwordsPerPrim_pos hvpp (hstride i) hi
  refine capturesLongestFit_of_subgroups hW0 hd _ fun k => ?_
  rw [List.filter_flatMap, flatMap_eq_of_ne hstreams hs]
  · exact filter_exportXfbStores_serial hact hvpp hstride hW0 σ hrun (hdone k) hi
      (fun o ho hb => ⟨by rw [← hb, (houtputs o ho).2]; exact beq_self_eq_true _, hb ▸ (houtputs o ho).1⟩)
      (fetch k _) fun t h v hv j hj hb => hfetch k k.isLt _ t h v hv j hj
        (by rw [← hb, (houtputs _ (List.getElem_mem _)).2])
  · intro s' _ hne
    exact filter_exportXfbStores_eq_nil (fun o ho hk hb => hne (by
      rw [← beq_iff_eq.mp hk, ← (houtputs o ho).2, hb])) _ _ _

end Subgroup

end Draw

end NggPrimShader.Xfb.Export
