import NggPrimShader.Basic
import Mathlib.Data.List.Range
import Mathlib.Algebra.BigOperators.Group.List

/-! The GS_EMIT and GS_CUT handlers that `mutateGs` installs in the API GS, and
the strips the API reads into the same messages. The handlers keep two counters
per stream and record, for every vertex that completes a primitive, the winding
of that primitive in the stream's primitive data. -/
namespace NggPrimShader.Gs.EmitCut

open NggPrimShader.Basic

inductive OutputPrimitives where
  | points
  | lineStrip
  | triangleStrip
  deriving DecidableEq, Repr

def OutputPrimitives.verticesPerPrimitive : OutputPrimitives → Nat
  | .points => 1
  | .lineStrip => 2
  | .triangleStrip => 3

theorem OutputPrimitives.verticesPerPrimitive_pos (prim : OutputPrimitives) :
    0 < prim.verticesPerPrimitive := by
  cases prim <;> decide

structure GeometryShaderMode where
  outputPrimitive : OutputPrimitives
  outputVertices : Nat
  deriving DecidableEq, Repr

inductive GsMessage where
  | emit (streamId : Fin MaxGsStreams)
  | cut (streamId : Fin MaxGsStreams)
  deriving DecidableEq, Repr

structure GsCounters where
  emitVerts : Fin MaxGsStreams → Nat
  outVerts : Fin MaxGsStreams → Nat

def GsCounters.init : GsCounters := ⟨fun _ => 0, fun _ => 0⟩

structure PrimDataStore where
  streamId : Fin MaxGsStreams
  vertexIndex : Nat
  winding : Nat
  deriving DecidableEq, Repr

def PrimDataStore.offset (st : PrimDataStore) : Nat :=
  st.vertexIndex + NggMaxThreadsPerSubgroup * st.streamId

variable (mode : GeometryShaderMode)

def windingOf (outVerts : Nat) : Nat :=
  if mode.outputPrimitive = .triangleStrip then
    (outVerts - mode.outputPrimitive.verticesPerPrimitive) &&& 1
  else 0

/-- `createGsEmitHandler`: both counters grow by one; once the open primitive has
`outVertsPerPrim` vertices its starting vertex
`threadIdInSubgroup * outputVertices + emitVerts - outVertsPerPrim` gets the winding. -/
def gsEmit (threadIdInSubgroup : Nat) (streamId : Fin MaxGsStreams) (c : GsCounters) :
    GsCounters × List PrimDataStore :=
  let emitVerts := c.emitVerts streamId + 1
  let outVerts := c.outVerts streamId + 1
  let c' : GsCounters :=
    ⟨Function.update c.emitVerts streamId emitVerts, Function.update c.outVerts streamId outVerts⟩
  if mode.outputPrimitive.verticesPerPrimitive ≤ outVerts then
    (c', [⟨streamId, threadIdInSubgroup * mode.outputVertices + emitVerts -
      mode.outputPrimitive.verticesPerPrimitive, windingOf mode outVerts⟩])
  else (c', [])

def gsCut (streamId : Fin MaxGsStreams) (c : GsCounters) : GsCounters :=
  { c with outVerts := Function.update c.outVerts streamId 0 }

def isHandledStream (rasterStream : Fin MaxGsStreams) (enableSwXfb : Bool)
    (streamId : Fin MaxGsStreams) : Bool :=
  enableSwXfb || streamId == rasterStream

def processGsMessage (rasterStream : Fin MaxGsStreams) (enableSwXfb : Bool)
    (threadIdInSubgroup : Nat) (acc : GsCounters × List PrimDataStore) :
    GsMessage → GsCounters × List PrimDataStore
  | .emit s =>
    if isHandledStream rasterStream enableSwXfb s then
      let r := gsEmit mode threadIdInSubgroup s acc.1
      (r.1, acc.2 ++ r.2)
    else acc
  | .cut s =>
    if isHandledStream rasterStream enableSwXfb s then (gsCut s acc.1, acc.2) else acc

def runGs (rasterStream : Fin MaxGsStreams) (enableSwXfb : Bool) (threadIdInSubgroup : Nat)
    (msgs : List GsMessage) : GsCounters × List PrimDataStore :=
  msgs.foldl (processGsMessage mode rasterStream enableSwXfb threadIdInSubgroup) (GsCounters.init, [])

/-- The strips of one stream: the lengths of the strips an EndPrimitive has
closed and the length of the open one. -/
structure Strips where
  closed : List Nat
  current : Nat

def Strips.step (s : Fin MaxGsStreams) (st : Strips) : GsMessage → Strips
  | .emit s' => if s' = s then ⟨st.closed, st.current + 1⟩ else st
  | .cut s' => if s' = s then ⟨st.closed ++ [st.current], 0⟩ else st

def stripsOf (s : Fin MaxGsStreams) (msgs : List GsMessage) : Strips :=
  msgs.foldl (Strips.step s) ⟨[], 0⟩

def Strips.lengths (st : Strips) : List Nat := st.closed ++ [st.current]

def stripPrims (k : Nat) : Nat → List Nat → List (Nat × Nat)
  | _, [] => []
  | first, n :: ns => (List.range (n + 1 - k)).map (fun p => (first + p, p)) ++ stripPrims k (first + n) ns

theorem stripPrims_append (k first : Nat) (ns ns' : List Nat) :
    stripPrims k first (ns ++ ns') = stripPrims k first ns ++ stripPrims k (first + ns.sum) ns' := by
  induction ns generalizing first with
  | nil => simp [stripPrims]
  | cons n ns ih => simp [stripPrims, ih, Nat.add_assoc]

theorem stripPrims_single (k first n : Nat) :
    stripPrims k first [n] = (List.range (n + 1 - k)).map (fun p => (first + p, p)) := by
  simp [stripPrims]

theorem stripsOf_append (s : Fin MaxGsStreams) (msgs : List GsMessage) (msg : GsMessage) :
    stripsOf s (msgs ++ [msg]) = (stripsOf s msgs).step s msg := by
  simp [stripsOf]

/-- The winding the API gives the primitive at position `p` of its strip: odd
triangles of a strip are wound the other way. -/
def stripWinding (prim : OutputPrimitives) (p : Nat) : Nat :=
  if prim = .triangleStrip then p % 2 else 0

theorem stripWinding_le_one (prim : OutputPrimitives) (p : Nat) : stripWinding prim p ≤ 1 := by
  unfold stripWinding
  split_ifs <;> omega

/-- The primitive data the API's strips call for on stream `s` of invocation
`t`: the starting vertex of every primitive with its winding. -/
def apiStores (t : Nat) (s : Fin MaxGsStreams) (st : Strips) : List PrimDataStore :=
  (stripPrims mode.outputPrimitive.verticesPerPrimitive 0 st.lengths).map fun jp =>
    ⟨s, t * mode.outputVertices + jp.1, stripWinding mode.outputPrimitive jp.2⟩

theorem apiStores_emit (t : Nat) (s : Fin MaxGsStreams) (st : Strips) :
    apiStores mode t s ⟨st.closed, st.current + 1⟩ =
      apiStores mode t s st ++
        if mode.outputPrimitive.verticesPerPrimitive ≤ st.current + 1 then
          [⟨s, t * mode.outputVertices + (st.closed.sum + (st.current + 1)) -
            mode.outputPrimitive.verticesPerPrimitive, windingOf mode (st.current + 1)⟩]
        else [] := by
  simp only [apiStores, Strips.lengths, stripPrims_append, stripPrims_single, List.map_append,
    List.append_assoc]
  congr 2
  by_cases h : mode.outputPrimitive.verticesPerPrimitive ≤ st.current + 1
  · rw [if_pos h, show st.current + 1 + 1 - mode.outputPrimitive.verticesPerPrimitive =
      st.current + 1 - mode.outputPrimitive.verticesPerPrimitive + 1 by omega, List.range_succ]
    simp only [List.map_append, List.map_cons, List.map_nil, windingOf, stripWinding,
      Nat.and_one_is_mod, Nat.zero_add]
    congr 3
    omega
  · rw [if_neg h, Nat.sub_eq_zero_of_le (Nat.not_le.mp h), Nat.sub_eq_zero_of_le (by omega)]
    rfl

theorem apiStores_cut (t : Nat) (s : Fin MaxGsStreams) (st : Strips) :
    apiStores mode t s ⟨st.closed ++ [st.current], 0⟩ = apiStores mode t s st := by
  have hk := mode.outputPrimitive.verticesPerPrimitive_pos
  simp only [apiStores, Strips.lengths]
  rw [stripPrims_append _ _ _ [0], stripPrims_single]
  simp [Nat.sub_eq_zero_of_le hk]

theorem runGs_stream (rasterStream : Fin MaxGsStreams) (enableSwXfb : Bool) (t : Nat)
    {s : Fin MaxGsStreams} (hs : isHandledStream rasterStream enableSwXfb s) (msgs : List GsMessage) :
    (runGs mode rasterStream enableSwXfb t msgs).1.emitVerts s = (stripsOf s msgs).lengths.sum ∧
      (runGs mode rasterStream enableSwXfb t msgs).1.outVerts s = (stripsOf s msgs).current ∧
      (runGs mode rasterStream enableSwXfb t msgs).2.filter (·.streamId == s) =
        apiStores mode t s (stripsOf s msgs) := by
  induction msgs using List.reverseRecOn with
  | nil =>
    have hk := mode.outputPrimitive.verticesPerPrimitive_pos
    simp [runGs, stripsOf, GsCounters.init, Strips.lengths, apiStores, stripPrims,
      Nat.sub_eq_zero_of_le hk]
  | append_singleton msgs msg ih =>
    obtain ⟨hE, hO, hst⟩ := ih
    rw [runGs, List.foldl_append, ← runGs, stripsOf_append]
    simp only [List.foldl_cons, List.foldl_nil]
    cases msg with
    | emit s' =>
      by_cases hs' : s' = s
      · subst hs'
        simp only [processGsMessage, hs, if_true, Strips.step, gsEmit, apiStores_emit, ← hst, hE, hO]
        split_ifs <;> simp [Strips.lengths, Nat.add_assoc]
      · have hne : (s' == s) = false := by simpa using hs'
        simp only [processGsMessage, Strips.step, hs', if_false]
        split_ifs
        · simp only [gsEmit]
          split_ifs <;> simp [Function.update_noteq (Ne.symm hs'), hE, hO, hst, hne]
        · exact ⟨hE, hO, hst⟩
    | cut s' =>
      by_cases hs' : s' = s
      · subst hs'
        simp only [processGsMessage, hs, if_true, Strips.step, gsCut, Function.update_same,
          apiStores_cut, hst]
        simp [hE, Strips.lengths]
      · simp only [processGsMessage, Strips.step, hs', if_false]
        split_ifs
        · simp [gsCut, Function.update_noteq (Ne.symm hs'), hE, hO, hst]
        · exact ⟨hE, hO, hst⟩

end NggPrimShader.Gs.EmitCut
