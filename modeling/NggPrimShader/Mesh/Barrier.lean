import Mathlib

/-! The barrier-completion handshake of `processMeshShader`. When the HW GS
has more waves than the API mesh shader needs, the extra waves skip the API
shader but must execute as many `s_barrier`s as the API mesh waves, or the
barrier before the output counts are read would release them early. When an
API barrier sits in a loop or a branch (`checkNeedBarrierFlag`), the count is
only known at run time, and the waves hand it over through one LDS dword:
each API barrier flips a toggle, the API mesh waves write `toggle ? 3 : 2` at
their exit and pass one more barrier, and the extra waves flip their own toggle
and pass a barrier until they read a nonzero flag whose low bit differs from
their toggle.

The model is a state machine over every interleaving of the waves' steps, with
`s_barrier` released only when every wave waits at one. Along every run, a
wave reads the output counts only when every wave has passed the count barrier,
so every API mesh wave has finished the API shader; no run stops before that,
and every run stops. -/
namespace NggPrimShader.Mesh.Barrier

/-- Where an API mesh wave is, with `n` API barriers executed. -/
inductive MeshPc
  -- Wave 0: thread 0 writes 0 to the barrier completion flag (`.writeSpecialValue`).
  | writeSpecialValue
  | specialValueBarrier  -- The `s_barrier` of `.endWriteSpecialValue`.
  | apiFlip (k : Nat)  -- Before API barrier `k`: `barrierToggle = !barrierToggle`.
  | apiBarrier (k : Nat)  -- API barrier `k`.
  | writeBarrierFlag  -- The API mesh exit: `barrierFlag = barrierToggle ? 3 : 2`, written to LDS.
  | endMeshWaveBarrier  -- The `s_barrier` of `.endMeshWave`.
  | outputCountBarrier  -- The `s_barrier` of `.checkMeshOutputCount`.
  | readOutputCount  -- Past it: reading the vertex and primitive counts.
  deriving DecidableEq, Repr

/-- Where an extra wave is. -/
inductive ExtraPc
  | specialValueBarrier
  | flipToggle  -- `.beginExtraWave`: `barrierToggle = !barrierToggle`.
  | extraBarrier  -- The `s_barrier` of `.beginExtraWave`.
  -- Read the flag; loop while `barrierFlag == 0 || (barrierFlag & 1) == barrierToggle`.
  | readBarrierFlag
  | outputCountBarrier
  | readOutputCount
  deriving DecidableEq, Repr

structure Wave (Pc : Type) where
  pc : Pc
  barrierToggle : Bool
  deriving DecidableEq, Repr

/-- The waves of one HW GS subgroup and the barrier completion flag in LDS.
`releases` counts the `s_barrier`s released so far; no wave reads it. -/
structure State (numMeshWaves numExtraWaves : Nat) where
  mesh : Fin numMeshWaves → Wave MeshPc
  extra : Fin numExtraWaves → Wave ExtraPc
  barrierFlag : Nat
  releases : Nat

def MeshPc.atBarrier : MeshPc → Bool
  | .specialValueBarrier | .apiBarrier _ | .endMeshWaveBarrier | .outputCountBarrier => true
  | _ => false

def MeshPc.afterBarrier (n : Nat) : MeshPc → MeshPc
  | .specialValueBarrier => if 0 < n then .apiFlip 0 else .writeBarrierFlag
  | .apiBarrier k => if k + 1 < n then .apiFlip (k + 1) else .writeBarrierFlag
  | .endMeshWaveBarrier => .outputCountBarrier
  | .outputCountBarrier => .readOutputCount
  | pc => pc

def ExtraPc.atBarrier : ExtraPc → Bool
  | .specialValueBarrier | .extraBarrier | .outputCountBarrier => true
  | _ => false

def ExtraPc.afterBarrier : ExtraPc → ExtraPc
  | .specialValueBarrier => .flipToggle
  | .extraBarrier => .readBarrierFlag
  | .outputCountBarrier => .readOutputCount
  | pc => pc

def meshStep (wave : Wave MeshPc) (barrierFlag : Nat) : Option (Wave MeshPc × Nat) :=
  match wave.pc with
  | .writeSpecialValue => some (⟨.specialValueBarrier, wave.barrierToggle⟩, 0)
  | .apiFlip k => some (⟨.apiBarrier k, !wave.barrierToggle⟩, barrierFlag)
  | .writeBarrierFlag => some (⟨.endMeshWaveBarrier, wave.barrierToggle⟩, if wave.barrierToggle then 3 else 2)
  | _ => none

def extraStep (wave : Wave ExtraPc) (barrierFlag : Nat) : Option (Wave ExtraPc) :=
  match wave.pc with
  | .flipToggle => some ⟨.extraBarrier, !wave.barrierToggle⟩
  | .readBarrierFlag =>
    let barriersNotCompleted := barrierFlag == 0
    let barriersToggle := barrierFlag &&& 1 == 1
    let toggleEqual := barriersToggle == wave.barrierToggle
    some ⟨if barriersNotCompleted || toggleEqual then .flipToggle else .outputCountBarrier, wave.barrierToggle⟩
  | _ => none

/-- A step of the subgroup: one wave's instruction, or the release of a
barrier every wave waits at. -/
inductive Action (numMeshWaves numExtraWaves : Nat)
  | mesh (w : Fin numMeshWaves)
  | extra (w : Fin numExtraWaves)
  | release

variable {M E : Nat}

def next (n : Nat) (s : State M E) : Action M E → Option (State M E)
  | .mesh w => (meshStep (s.mesh w) s.barrierFlag).map fun p =>
      { s with mesh := Function.update s.mesh w p.1, barrierFlag := p.2 }
  | .extra w => (extraStep (s.extra w) s.barrierFlag).map fun wave =>
      { s with extra := Function.update s.extra w wave }
  | .release =>
    if (∀ w, (s.mesh w).pc.atBarrier) ∧ (∀ w, (s.extra w).pc.atBarrier) then
      some { s with
        mesh := fun w => ⟨(s.mesh w).pc.afterBarrier n, (s.mesh w).barrierToggle⟩
        extra := fun w => ⟨(s.extra w).pc.afterBarrier, (s.extra w).barrierToggle⟩
        releases := s.releases + 1 }
    else none

def init (barrierFlag : Nat) : State M E where
  mesh w := ⟨if w.val = 0 then .writeSpecialValue else .specialValueBarrier, false⟩
  extra _ := ⟨.specialValueBarrier, false⟩
  barrierFlag := barrierFlag
  releases := 0

inductive Reachable (n : Nat) : State M E → Prop
  | init (barrierFlag : Nat) : Reachable n (init barrierFlag)
  | step {s s' : State M E} (a : Action M E) : Reachable n s → next n s a = some s' → Reachable n s'

def MeshPc.phase (n : Nat) : MeshPc → Nat
  | .writeSpecialValue | .specialValueBarrier => 0
  | .apiFlip k | .apiBarrier k => k + 1
  | .writeBarrierFlag | .endMeshWaveBarrier => n + 1
  | .outputCountBarrier => n + 2
  | .readOutputCount => n + 3

def MeshPc.toggle (n : Nat) : MeshPc → Bool
  | .writeSpecialValue | .specialValueBarrier => false
  | .apiFlip k => k % 2 == 1
  | .apiBarrier k => (k + 1) % 2 == 1
  | _ => n % 2 == 1

def MeshPc.Valid (n : Nat) : MeshPc → Prop
  | .apiFlip k | .apiBarrier k => k < n
  | _ => True

def MeshPc.Wrote : MeshPc → Prop
  | .endMeshWaveBarrier | .outputCountBarrier | .readOutputCount => True
  | _ => False

def finalFlag (n : Nat) : Nat := if n % 2 == 1 then 3 else 2

def MeshInv (n r : Nat) (wave : Wave MeshPc) : Prop :=
  wave.pc.phase n = r ∧ wave.barrierToggle = wave.pc.toggle n ∧ wave.pc.Valid n

def ExtraInv (n r : Nat) (wave : Wave ExtraPc) : Prop :=
  match wave.pc with
  | .specialValueBarrier => r = 0 ∧ wave.barrierToggle = false
  | .flipToggle => 1 ≤ r ∧ r ≤ n + 1 ∧ wave.barrierToggle = ((r + 1) % 2 == 1)
  | .extraBarrier => 1 ≤ r ∧ r ≤ n + 1 ∧ wave.barrierToggle = (r % 2 == 1)
  | .readBarrierFlag => 2 ≤ r ∧ r ≤ n + 2 ∧ wave.barrierToggle = ((r + 1) % 2 == 1)
  | .outputCountBarrier => r = n + 2
  | .readOutputCount => r = n + 3

/-- The invariant of the handshake with `n` API barriers. -/
structure Inv (n : Nat) (s : State M E) : Prop where
  mesh : ∀ w, MeshInv n s.releases (s.mesh w)
  extra : ∀ w, ExtraInv n s.releases (s.extra w)
  flag_start : ∀ w, w.val = 0 → (s.mesh w).pc = .specialValueBarrier → s.releases = 0 → s.barrierFlag = 0
  flag_api : 1 ≤ s.releases → s.releases ≤ n → s.barrierFlag = 0
  flag_exit : n + 1 ≤ s.releases → s.barrierFlag = 0 ∨ s.barrierFlag = finalFlag n
  flag_wrote : ∀ w, (s.mesh w).pc.Wrote → s.barrierFlag = finalFlag n

theorem not_odd_eq_succ (k : Nat) : (!(k % 2 == 1)) = ((k + 1) % 2 == 1) := by
  rcases Nat.mod_two_eq_zero_or_one k with h | h <;> simp [Nat.add_mod, h]

theorem finalFlag_ne_zero (n : Nat) : finalFlag n ≠ 0 := by
  unfold finalFlag; split <;> decide

theorem finalFlag_and_one (n : Nat) : (finalFlag n &&& 1 == 1) = (n % 2 == 1) := by
  unfold finalFlag; split <;> simp_all

theorem MeshPc.eq_readOutputCount {n : Nat} {pc : MeshPc} (hv : pc.Valid n) (h : pc.phase n = n + 3) :
    pc = .readOutputCount := by
  cases pc <;> simp_all [MeshPc.phase, MeshPc.Valid]

theorem MeshPc.wrote_of_phase {n : Nat} {pc : MeshPc} (hv : pc.Valid n) (h : n + 2 ≤ pc.phase n) : pc.Wrote := by
  cases pc <;> simp_all [MeshPc.phase, MeshPc.Valid, MeshPc.Wrote] <;> omega

theorem MeshPc.not_wrote_of_phase {n : Nat} {pc : MeshPc} (h : pc.phase n ≤ n) : ¬pc.Wrote := by
  cases pc <;> simp_all [MeshPc.phase, MeshPc.Wrote]

theorem MeshPc.eq_specialValueBarrier {n : Nat} {pc : MeshPc} (hb : pc.atBarrier) (h : pc.phase n = 0) :
    pc = .specialValueBarrier := by
  cases pc <;> simp_all [MeshPc.phase, MeshPc.atBarrier]

theorem MeshPc.wrote_of_afterBarrier {n : Nat} {pc : MeshPc} (hb : pc.atBarrier) (h : (pc.afterBarrier n).Wrote) :
    pc.Wrote := by
  cases pc <;> simp only [MeshPc.atBarrier, Bool.false_eq_true] at hb <;> simp only [MeshPc.Wrote]
  all_goals simp only [MeshPc.afterBarrier] at h; split_ifs at h <;> exact h

theorem meshStep_eq_some {wave : Wave MeshPc} {flag : Nat} {p : Wave MeshPc × Nat}
    (h : meshStep wave flag = some p) :
    (wave.pc = .writeSpecialValue ∧ p = (⟨.specialValueBarrier, wave.barrierToggle⟩, 0)) ∨
      (∃ k, wave.pc = .apiFlip k ∧ p = (⟨.apiBarrier k, !wave.barrierToggle⟩, flag)) ∨
      (wave.pc = .writeBarrierFlag ∧
        p = (⟨.endMeshWaveBarrier, wave.barrierToggle⟩, if wave.barrierToggle then 3 else 2)) := by
  unfold meshStep at h
  split at h <;> simp_all

theorem meshStep_inv {n r : Nat} {wave : Wave MeshPc} {flag : Nat} {p : Wave MeshPc × Nat}
    (hi : MeshInv n r wave) (h : meshStep wave flag = some p) : MeshInv n r p.1 := by
  obtain ⟨hph, htg, hv⟩ := hi
  rcases meshStep_eq_some h with ⟨hpc, rfl⟩ | ⟨k, hpc, rfl⟩ | ⟨hpc, rfl⟩ <;>
    simp_all [MeshInv, MeshPc.phase, MeshPc.toggle, MeshPc.Valid, not_odd_eq_succ]

theorem extraStep_eq_some {wave wave' : Wave ExtraPc} {flag : Nat} (h : extraStep wave flag = some wave') :
    (wave.pc = .flipToggle ∧ wave' = ⟨.extraBarrier, !wave.barrierToggle⟩) ∨
      (wave.pc = .readBarrierFlag ∧
        wave' = ⟨if (flag == 0 || (flag &&& 1 == 1) == wave.barrierToggle) then .flipToggle
          else .outputCountBarrier, wave.barrierToggle⟩) := by
  unfold extraStep at h
  split at h <;> simp_all

theorem extraStep_inv {n r : Nat} {wave wave' : Wave ExtraPc} {flag : Nat} (hi : ExtraInv n r wave)
    (hapi : 1 ≤ r → r ≤ n → flag = 0) (hexit : n + 1 ≤ r → flag = 0 ∨ flag = finalFlag n)
    (hdone : r = n + 2 → flag = finalFlag n) (h : extraStep wave flag = some wave') : ExtraInv n r wave' := by
  rcases extraStep_eq_some h with ⟨hpc, rfl⟩ | ⟨hpc, rfl⟩
  · simp only [ExtraInv, hpc] at hi ⊢
    obtain ⟨h1, h2, htg⟩ := hi
    refine ⟨h1, h2, ?_⟩
    rw [htg, ← not_odd_eq_succ, Bool.not_not]
  · simp only [ExtraInv, hpc] at hi
    obtain ⟨h1, h2, htg⟩ := hi
    split_ifs with hc <;> simp only [ExtraInv]
    · -- the loop goes on: the flag is still 0, or the API mesh waves' toggle
      refine ⟨by omega, ?_, htg⟩
      by_contra hr
      obtain rfl : r = n + 2 := by omega
      rw [hdone rfl, htg] at hc
      rcases Nat.mod_two_eq_zero_or_one n with hn | hn <;> simp [finalFlag, hn, Nat.add_mod] at hc
    · -- the loop ends: the API mesh waves are past their exit barrier
      simp only [Bool.or_eq_true, beq_iff_eq, not_or] at hc
      obtain ⟨hz, hne⟩ := hc
      by_contra hr
      have hr' : r = n + 1 := by
        by_contra hr''
        exact hz (hapi (by omega) (by omega))
      have hflag := (hexit (by omega)).resolve_left hz
      have : (r + 1) % 2 = n % 2 := by omega
      rw [hflag, htg, finalFlag_and_one, this] at hne
      simp at hne

theorem meshRelease_inv {n r : Nat} {wave : Wave MeshPc} (hi : MeshInv n r wave) (hb : wave.pc.atBarrier) :
    MeshInv n (r + 1) ⟨wave.pc.afterBarrier n, wave.barrierToggle⟩ := by
  obtain ⟨hph, htg, hv⟩ := hi
  obtain ⟨pc, toggle⟩ := wave
  cases pc <;> simp only [MeshPc.atBarrier, Bool.false_eq_true] at hb <;>
    simp only [MeshPc.phase, MeshPc.toggle, MeshPc.Valid] at hph htg hv <;> subst hph htg <;>
    simp only [MeshInv, MeshPc.afterBarrier]
  case specialValueBarrier =>
    split_ifs with hn
    · simp [MeshPc.phase, MeshPc.toggle, MeshPc.Valid, hn]
    · obtain rfl : n = 0 := by omega
      simp [MeshPc.phase, MeshPc.toggle, MeshPc.Valid]
  case apiBarrier k =>
    split_ifs with hk
    · simp [MeshPc.phase, MeshPc.toggle, MeshPc.Valid, hk]
    · obtain rfl : n = k + 1 := by omega
      simp [MeshPc.phase, MeshPc.toggle, MeshPc.Valid]
  all_goals simp [MeshPc.phase, MeshPc.toggle, MeshPc.Valid]

theorem extraRelease_inv {n r : Nat} {wave : Wave ExtraPc} (hi : ExtraInv n r wave) (hb : wave.pc.atBarrier) :
    ExtraInv n (r + 1) ⟨wave.pc.afterBarrier, wave.barrierToggle⟩ := by
  obtain ⟨pc, toggle⟩ := wave
  cases pc <;> simp only [ExtraPc.atBarrier, Bool.false_eq_true] at hb <;>
    simp only [ExtraInv, ExtraPc.afterBarrier] at hi ⊢
  case specialValueBarrier =>
    obtain ⟨rfl, rfl⟩ := hi
    simp
  case extraBarrier =>
    obtain ⟨h1, h2, rfl⟩ := hi
    exact ⟨by omega, by omega, by rw [show r + 1 + 1 = r + 2 by omega, Nat.add_mod_right]⟩
  case outputCountBarrier => omega

theorem ExtraInv.pc_eq_readOutputCount {n : Nat} {wave : Wave ExtraPc} (h : ExtraInv n (n + 3) wave) :
    wave.pc = .readOutputCount := by
  unfold ExtraInv at h
  split at h <;> first | assumption | omega

theorem MeshPc.phase_le_of_atBarrier {n : Nat} {pc : MeshPc} (hv : pc.Valid n) (hb : pc.atBarrier) :
    pc.phase n ≤ n + 2 := by
  cases pc <;> simp_all [MeshPc.phase, MeshPc.Valid, MeshPc.atBarrier]
  omega

section Invariant

variable {n : Nat} {s s' : State M E}

theorem next_mesh_eq {w : Fin M} (h : next n s (.mesh w) = some s') :
    ∃ p, meshStep (s.mesh w) s.barrierFlag = some p ∧
      s' = { s with mesh := Function.update s.mesh w p.1, barrierFlag := p.2 } := by
  simp only [next, Option.map_eq_some'] at h
  obtain ⟨p, hp, rfl⟩ := h
  exact ⟨p, hp, rfl⟩

theorem next_extra_eq {w : Fin E} (h : next n s (.extra w) = some s') :
    ∃ wave, extraStep (s.extra w) s.barrierFlag = some wave ∧
      s' = { s with extra := Function.update s.extra w wave } := by
  simp only [next, Option.map_eq_some'] at h
  obtain ⟨wave, hw, rfl⟩ := h
  exact ⟨wave, hw, rfl⟩

theorem next_release_eq (h : next n s .release = some s') :
    (∀ w, (s.mesh w).pc.atBarrier) ∧ (∀ w, (s.extra w).pc.atBarrier) ∧
      s' = { s with
        mesh := fun w => ⟨(s.mesh w).pc.afterBarrier n, (s.mesh w).barrierToggle⟩
        extra := fun w => ⟨(s.extra w).pc.afterBarrier, (s.extra w).barrierToggle⟩
        releases := s.releases + 1 } := by
  simp only [next] at h
  split_ifs at h with hb
  exact ⟨hb.1, hb.2, (Option.some.inj h).symm⟩

theorem inv_init (barrierFlag : Nat) : Inv n (init barrierFlag : State M E) where
  mesh w := by by_cases h : w.val = 0 <;> simp [init, h, MeshInv, MeshPc.phase, MeshPc.toggle, MeshPc.Valid]
  extra _ := by simp [init, ExtraInv]
  flag_start w h0 h := by simp [init, h0] at h
  flag_api h _ := by simp [init] at h
  flag_exit h := by simp [init] at h
  flag_wrote w h := by by_cases h0 : w.val = 0 <;> simp [init, h0, MeshPc.Wrote] at h

theorem Inv.next_mesh (hi : Inv n s) {w : Fin M} (h : next n s (.mesh w) = some s') : Inv n s' := by
  obtain ⟨p, hp, rfl⟩ := next_mesh_eq h
  obtain ⟨hph, htg, -⟩ := hi.mesh w
  have hmesh : ∀ w', MeshInv n s.releases (Function.update s.mesh w p.1 w') := fun w' => by
    rcases eq_or_ne w' w with rfl | hne
    · simpa using meshStep_inv (hi.mesh w') hp
    · simpa [hne] using hi.mesh w'
  rcases meshStep_eq_some hp with ⟨hpc, rfl⟩ | ⟨k, hpc, rfl⟩ | ⟨hpc, rfl⟩
  · -- wave 0 clears the flag during release 0, when no wave has written it
    rw [hpc, MeshPc.phase] at hph
    refine ⟨hmesh, hi.extra, fun _ _ _ _ => rfl, fun (h1 : 1 ≤ s.releases) _ => by omega, fun _ => .inl rfl,
      fun w' h' => ?_⟩
    rcases eq_or_ne w' w with rfl | hne
    · simp [MeshPc.Wrote] at h'
    · simp only [Function.update_noteq hne] at h'
      exact absurd h' (MeshPc.not_wrote_of_phase (by rw [(hi.mesh w').1]; omega))
  · -- an API barrier's flip leaves the flag as it is
    rw [hpc, MeshPc.phase] at hph
    refine ⟨hmesh, hi.extra, fun _ _ _ (h0 : s.releases = 0) => by omega, hi.flag_api, hi.flag_exit,
      fun w' h' => ?_⟩
    rcases eq_or_ne w' w with rfl | hne
    · simp [MeshPc.Wrote] at h'
    · exact hi.flag_wrote w' (by simpa [hne] using h')
  · -- the API mesh exit writes the final flag
    rw [hpc, MeshPc.phase] at hph
    simp only [hpc, MeshPc.toggle] at htg
    have hfinal : (if (s.mesh w).barrierToggle then 3 else 2) = finalFlag n := by rw [htg]; rfl
    exact ⟨hmesh, hi.extra, fun _ _ _ (h0 : s.releases = 0) => by omega,
      fun _ (h2 : s.releases ≤ n) => by omega, fun _ => .inr hfinal, fun _ _ => hfinal⟩

theorem Inv.next_extra (hM : 0 < M) (hi : Inv n s) {w : Fin E} (h : next n s (.extra w) = some s') :
    Inv n s' := by
  obtain ⟨wave, hw, rfl⟩ := next_extra_eq h
  refine ⟨hi.mesh, fun w' => ?_, hi.flag_start, hi.flag_api, hi.flag_exit, hi.flag_wrote⟩
  rcases eq_or_ne w' w with rfl | hne
  · -- at the count barrier's release every API mesh wave has written the flag
    have hdone : s.releases = n + 2 → s.barrierFlag = finalFlag n := fun hr =>
      hi.flag_wrote ⟨0, hM⟩ (MeshPc.wrote_of_phase (hi.mesh _).2.2 (by rw [(hi.mesh _).1]; omega))
    simpa using extraStep_inv (hi.extra w') hi.flag_api hi.flag_exit hdone hw
  · simpa [hne] using hi.extra w'

theorem Inv.next_release (hM : 0 < M) (hi : Inv n s) (h : next n s .release = some s') : Inv n s' := by
  obtain ⟨hbm, hbe, rfl⟩ := next_release_eq h
  -- the first release finds wave 0 past its write of 0
  have hzero : s.releases = 0 → s.barrierFlag = 0 := fun hr =>
    hi.flag_start ⟨0, hM⟩ rfl (MeshPc.eq_specialValueBarrier (hbm _) ((hi.mesh _).1.trans hr)) hr
  refine ⟨fun w => meshRelease_inv (hi.mesh w) (hbm w), fun w => extraRelease_inv (hi.extra w) (hbe w),
    fun _ _ _ h0 => absurd h0 (Nat.succ_ne_zero _), fun _ (h2 : s.releases + 1 ≤ n) => ?_,
    fun (h1 : n + 1 ≤ s.releases + 1) => ?_, fun w h' => hi.flag_wrote w (MeshPc.wrote_of_afterBarrier (hbm w) h')⟩
  · rcases Nat.eq_zero_or_pos s.releases with hr | hr
    · exact hzero hr
    · exact hi.flag_api hr (by omega)
  · rcases Nat.lt_or_ge n s.releases with hr | hr
    · exact hi.flag_exit hr
    · rcases Nat.eq_zero_or_pos s.releases with hr0 | hr0
      · exact .inl (hzero hr0)
      · exact .inl (hi.flag_api hr0 hr)

theorem Inv.step (hM : 0 < M) (hi : Inv n s) : ∀ {a : Action M E}, next n s a = some s' → Inv n s'
  | .mesh _, h => hi.next_mesh h
  | .extra _, h => hi.next_extra hM h
  | .release, h => hi.next_release hM h

theorem Reachable.inv (hM : 0 < M) (h : Reachable n s) : Inv n s := by
  induction h with
  | init f => exact inv_init f
  | step _ _ hs ih => exact ih.step hM hs

end Invariant

def Done (s : State M E) : Prop :=
  (∀ w, (s.mesh w).pc = .readOutputCount) ∧ (∀ w, (s.extra w).pc = .readOutputCount)

def run (n : Nat) : State M E → List (Action M E) → Option (State M E)
  | s, [] => some s
  | s, a :: as => (next n s a).bind fun s' => run n s' as

def MeshPc.localSteps : MeshPc → Nat
  | .writeSpecialValue | .apiFlip _ | .writeBarrierFlag => 1
  | _ => 0

def ExtraPc.localSteps : ExtraPc → Nat
  | .flipToggle => 1
  | .readBarrierFlag => 2
  | _ => 0

/-- What every step decreases: a release costs one `M + 2 * E + 1` and frees at
most one instruction per API mesh wave and two per extra wave. -/
def measure (n : Nat) (s : State M E) : Nat :=
  (n + 3 - s.releases) * (M + 2 * E + 1) +
    ((∑ w, (s.mesh w).pc.localSteps) + ∑ w, (s.extra w).pc.localSteps)

section Progress

variable {n : Nat} {s s' : State M E}

theorem Inv.done_of_read (hi : Inv n s)
    (hread : (∃ w, (s.mesh w).pc = .readOutputCount) ∨ ∃ w, (s.extra w).pc = .readOutputCount) : Done s := by
  have hr : s.releases = n + 3 := by
    rcases hread with ⟨w, hw⟩ | ⟨w, hw⟩
    · simpa [hw, MeshPc.phase] using (hi.mesh w).1.symm
    · simpa [ExtraInv, hw] using hi.extra w
  exact ⟨fun w => MeshPc.eq_readOutputCount (hi.mesh w).2.2 ((hi.mesh w).1.trans hr),
    fun w => ExtraInv.pc_eq_readOutputCount (hr ▸ hi.extra w)⟩

theorem meshStep_eq_none {wave : Wave MeshPc} {flag : Nat} (h : meshStep wave flag = none) :
    wave.pc.atBarrier ∨ wave.pc = .readOutputCount := by
  obtain ⟨pc, toggle⟩ := wave
  cases pc <;> simp_all [meshStep, MeshPc.atBarrier]

theorem extraStep_eq_none {wave : Wave ExtraPc} {flag : Nat} (h : extraStep wave flag = none) :
    wave.pc.atBarrier ∨ wave.pc = .readOutputCount := by
  obtain ⟨pc, toggle⟩ := wave
  cases pc <;> simp_all [extraStep, ExtraPc.atBarrier]

theorem Inv.done_of_stuck (hi : Inv n s) (hstuck : ∀ a, next n s a = none) : Done s := by
  have hm : ∀ w, meshStep (s.mesh w) s.barrierFlag = none := fun w => by
    simpa [next] using hstuck (.mesh w)
  have he : ∀ w, extraStep (s.extra w) s.barrierFlag = none := fun w => by
    simpa [next] using hstuck (.extra w)
  by_contra hd
  -- nobody reads the counts, so every wave waits at a barrier, and the release can be taken
  have hread : (∀ w, (s.mesh w).pc ≠ .readOutputCount) ∧ ∀ w, (s.extra w).pc ≠ .readOutputCount := by
    simpa [not_or] using mt hi.done_of_read hd
  have hb : (∀ w, (s.mesh w).pc.atBarrier) ∧ ∀ w, (s.extra w).pc.atBarrier :=
    ⟨fun w => (meshStep_eq_none (hm w)).resolve_right (hread.1 w),
      fun w => (extraStep_eq_none (he w)).resolve_right (hread.2 w)⟩
  simpa [next, hb] using hstuck .release

theorem MeshPc.localSteps_le_one (pc : MeshPc) : pc.localSteps ≤ 1 := by
  cases pc <;> simp [MeshPc.localSteps]

theorem ExtraPc.localSteps_le_two (pc : ExtraPc) : pc.localSteps ≤ 2 := by
  cases pc <;> simp [ExtraPc.localSteps]

theorem MeshPc.localSteps_of_atBarrier {pc : MeshPc} (hb : pc.atBarrier) : pc.localSteps = 0 := by
  cases pc <;> simp_all [MeshPc.atBarrier, MeshPc.localSteps]

theorem ExtraPc.localSteps_of_atBarrier {pc : ExtraPc} (hb : pc.atBarrier) : pc.localSteps = 0 := by
  cases pc <;> simp_all [ExtraPc.atBarrier, ExtraPc.localSteps]

theorem sum_update_lt {ι β : Type} [Fintype ι] [DecidableEq ι] {f : ι → β} {g : β → Nat} {i : ι} {b : β}
    (h : g b < g (f i)) : ∑ w, g (Function.update f i b w) < ∑ w, g (f w) :=
  Finset.sum_lt_sum (fun w _ => by rcases eq_or_ne w i with rfl | hne <;> simp [*, le_of_lt])
    ⟨i, Finset.mem_univ _, by simpa⟩

theorem Inv.measure_lt (hM : 0 < M) (hi : Inv n s) {a : Action M E} (h : next n s a = some s') :
    measure n s' < measure n s := by
  cases a with
  | mesh w =>
    obtain ⟨p, hp, rfl⟩ := next_mesh_eq h
    have hlt : p.1.pc.localSteps < (s.mesh w).pc.localSteps := by
      rcases meshStep_eq_some hp with ⟨hpc, rfl⟩ | ⟨k, hpc, rfl⟩ | ⟨hpc, rfl⟩ <;>
        simp [hpc, MeshPc.localSteps]
    have := sum_update_lt (g := fun wave : Wave MeshPc => wave.pc.localSteps) hlt
    simp only [measure] at this ⊢
    omega
  | extra w =>
    obtain ⟨wave, hw, rfl⟩ := next_extra_eq h
    have hlt : wave.pc.localSteps < (s.extra w).pc.localSteps := by
      rcases extraStep_eq_some hw with ⟨hpc, rfl⟩ | ⟨hpc, rfl⟩
      · simp [hpc, ExtraPc.localSteps]
      · split_ifs <;> simp [hpc, ExtraPc.localSteps]
    have := sum_update_lt (g := fun wave : Wave ExtraPc => wave.pc.localSteps) hlt
    simp only [measure] at this ⊢
    omega
  | release =>
    obtain ⟨hbm, hbe, rfl⟩ := next_release_eq h
    -- before the release no wave has an instruction left; after it at most the weight less one
    have h0 : (∑ w, (s.mesh w).pc.localSteps) + ∑ w, (s.extra w).pc.localSteps = 0 := by
      simp [MeshPc.localSteps_of_atBarrier (hbm _), ExtraPc.localSteps_of_atBarrier (hbe _)]
    have hmesh : ∑ w : Fin M, ((s.mesh w).pc.afterBarrier n).localSteps ≤ M := by
      simpa using Finset.sum_le_sum fun w (_ : w ∈ Finset.univ) => ((s.mesh w).pc.afterBarrier n).localSteps_le_one
    have hextra : ∑ w : Fin E, (s.extra w).pc.afterBarrier.localSteps ≤ E * 2 := by
      simpa using Finset.sum_le_sum fun w (_ : w ∈ Finset.univ) => (s.extra w).pc.afterBarrier.localSteps_le_two
    have hr : s.releases < n + 3 :=
      Nat.lt_succ_of_le ((hi.mesh ⟨0, hM⟩).1 ▸ MeshPc.phase_le_of_atBarrier (hi.mesh _).2.2 (hbm _))
    obtain ⟨d, hd⟩ : ∃ d, n + 3 - s.releases = d + 1 := ⟨n + 2 - s.releases, by omega⟩
    have hd' : n + 3 - (s.releases + 1) = d := by omega
    simp only [measure, hd, hd', add_mul, one_mul] at h0 ⊢
    omega

theorem Reachable.of_run {s : State M E} (hs : Reachable n s) :
    ∀ {as : List (Action M E)}, run n s as = some s' → Reachable n s'
  | [], h => by simpa [run] using (Option.some.inj h) ▸ hs
  | a :: as, h => by
    simp only [run, Option.bind_eq_some] at h
    obtain ⟨t, ht, h⟩ := h
    exact Reachable.of_run (.step a hs ht) h

theorem Reachable.length_add_measure_le (hM : 0 < M) {s : State M E} (hs : Reachable n s) :
    ∀ {as : List (Action M E)}, run n s as = some s' → as.length + measure n s' ≤ measure n s
  | [], h => by simp_all [run]
  | a :: as, h => by
    simp only [run, Option.bind_eq_some] at h
    obtain ⟨t, ht, h⟩ := h
    have hlt := (hs.inv hM).measure_lt hM ht
    have := Reachable.length_add_measure_le hM (.step a hs ht) h
    simp only [List.length_cons]
    omega

/-- Along every interleaving of the waves' steps, a wave reads the output
counts only once every wave has passed the count barrier: no extra wave takes
an API barrier of the mesh waves for the count barrier. -/
theorem readOutputCount_together (hM : 0 < M) (hs : Reachable n s)
    (hread : (∃ w, (s.mesh w).pc = .readOutputCount) ∨ ∃ w, (s.extra w).pc = .readOutputCount) : Done s :=
  (hs.inv hM).done_of_read hread

theorem readOutputCount_together_oneBarrier :
    ∃ s : State 1 1, run 1 (init 7) [.mesh 0, .release, .mesh 0, .extra 0, .release, .extra 0, .mesh 0, .extra 0,
      .release, .extra 0, .release] = some s ∧ Done s :=
  have h : run 1 (init 7 : State 1 1) [.mesh 0, .release, .mesh 0, .extra 0, .release, .extra 0, .mesh 0, .extra 0,
      .release, .extra 0, .release] = some _ := rfl
  ⟨_, h, readOutputCount_together one_pos ((Reachable.init 7).of_run h) (.inr ⟨0, rfl⟩)⟩

theorem measure_init (hM : 0 < M) (barrierFlag : Nat) :
    measure n (init barrierFlag : State M E) = (n + 3) * (M + 2 * E + 1) + 1 := by
  -- only wave 0 has an instruction before the first barrier
  have h0 : ∀ w : Fin M, (if w.val = 0 then MeshPc.writeSpecialValue else .specialValueBarrier).localSteps =
      if w = ⟨0, hM⟩ then 1 else 0 := fun w => by
    split_ifs <;> simp_all [Fin.ext_iff, MeshPc.localSteps]
  simp [measure, init, h0, ExtraPc.localSteps]

/-- Every run from the start takes at most `(n + 3) * (M + 2 * E + 1) + 1`
steps, and a run that cannot go on ends with every wave reading the counts. -/
theorem barrierHandshake_completes (hM : 0 < M) (barrierFlag : Nat) {as : List (Action M E)}
    (h : run n (init barrierFlag) as = some s) :
    as.length ≤ (n + 3) * (M + 2 * E + 1) + 1 ∧ ((∀ a, next n s a = none) → Done s) := by
  have hs := (Reachable.init barrierFlag).of_run h
  have := (Reachable.init barrierFlag).length_add_measure_le hM h
  rw [measure_init hM] at this
  exact ⟨by omega, (hs.inv hM).done_of_stuck⟩

theorem barrierHandshake_completes_single :
    ∃ s : State 1 1, run 0 (init 7) [.mesh 0, .release, .mesh 0, .extra 0, .release, .extra 0, .release] = some s ∧
      Done s :=
  have h : run 0 (init 7 : State 1 1) [.mesh 0, .release, .mesh 0, .extra 0, .release, .extra 0, .release] =
      some _ := rfl
  ⟨_, h, (barrierHandshake_completes one_pos 7 h).2 fun
    | .mesh w => by rw [Fin.fin_one_eq_zero w]; rfl
    | .extra w => by rw [Fin.fin_one_eq_zero w]; rfl
    | .release => rfl⟩

end Progress

end NggPrimShader.Mesh.Barrier
