import Lldpad.Dcbx.Setters
import Lldpad.Proofs.Dcbx.Feature

/-!
# `Lldpad.Proofs.Dcbx.Calls`: which feature machines run for an event

`run_dcb_protocol` and `dcbx_add_adapter` call `run_feature_protocol` for one feature after
another. `Calls` is such a sequence of calls. A call leaves the stores of the other features
and the control machine alone (`runFeatureProtocol_frame`), so each feature of the sequence
runs with the stores that it had at the start: `Calls.ran`, and `Calls.get_eq` for the others.

A remote change with versions that do not agree ends the sequence early. `Calls.skip` is a
call that is left out then.
-/

namespace Lldpad.Dcbx

open Lldpad.Lib

variable {drv : Driver} {d d' : Device}

/-- The feature that a call finds -/
def target (call : ChangeEvent × Nat) : Option Feature := findFeature call.2 call.1

/-- The flag of a double TLV that the machine of a feature sees -/
def dupOf (d : Device) (f : Feature) : Bool :=
  hasFlag (d.peerProt f).errorFlag dupDcbxTlvCtrl || hasFlag (d.peerProt f).errorFlag (dupFlag f)

variable {e : ChangeEvent} {st : CmdStatus} {side : Side}

theorem runFeatureProtocol_eq_ok {call : ChangeEvent × Nat} {f : Feature}
    (ha : d.active = true) (hf : target call = some f) :
    runFeatureProtocol drv d call.1 call.2 = .ok (d', st) ↔
      ∃ v, (d.get f).featureMachine (ops drv d f) call.1.side (dupOf d f)
        (call.1 = .pfc .loc) d.ctrl d.peerCtrl = .ok (v, st) ∧ d' = d.set f v := by
  have hf : findFeature call.2 call.1 = some f := hf
  unfold runFeatureProtocol
  simp only [ha, Bool.not_true, Bool.false_eq_true, ↓reduceIte, hf]
  rw [bind_eq_ok]
  constructor
  · rintro ⟨⟨v, st'⟩, hv, h⟩
    cases h
    exact ⟨v, hv, rfl⟩
  · rintro ⟨v, hv, rfl⟩
    exact ⟨(v, st), hv, rfl⟩

/-- What no machine of a feature touches. -/
structure SameControl (d d' : Device) : Prop where
  active : d'.active = d.active
  ctrl : d'.ctrl = d.ctrl
  peerCtrl : d'.peerCtrl = d.peerCtrl

theorem SameControl.refl (d : Device) : SameControl d d := ⟨rfl, rfl, rfl⟩

theorem SameControl.trans {d₁ d₂ d₃ : Device} (h : SameControl d₁ d₂)
    (h' : SameControl d₂ d₃) : SameControl d₁ d₃ :=
  ⟨h'.active.trans h.active, h'.ctrl.trans h.ctrl, h'.peerCtrl.trans h.peerCtrl⟩

theorem runFeatureProtocol_frame {n : Nat} (h : runFeatureProtocol drv d e n = .ok (d', st)) :
    SameControl d d' ∧ ∀ f, target (e, n) ≠ some f → d'.get f = d.get f := by
  cases ha : d.active with
  | false =>
    unfold runFeatureProtocol at h
    simp only [ha, Bool.not_false, ↓reduceIte] at h
    cases h
    exact ⟨.refl d, fun f _ => rfl⟩
  | true =>
    cases hf : target (e, n) with
    | none =>
      have hf : findFeature n e = none := hf
      unfold runFeatureProtocol at h
      simp only [ha, Bool.not_true, Bool.false_eq_true, ↓reduceIte, hf] at h
      cases h
      exact ⟨.refl d, fun f _ => rfl⟩
    | some g =>
      obtain ⟨v, -, rfl⟩ := (runFeatureProtocol_eq_ok ha hf).mp h
      refine ⟨⟨Device.set_active .., Device.set_ctrl .., Device.set_peerCtrl ..⟩, ?_⟩
      intro f hne
      exact d.set_get_of_ne v fun hfg => hne (congrArg some hfg.symm)

/-- The versions stop a call. -/
def Stopped (d : Device) (e : ChangeEvent) : Prop :=
  e.side = .rem ∧ Stores.versionsAgree d.ctrl d.peerCtrl = false

theorem SameControl.stopped (h : SameControl d d') :
    Stopped d' e ↔ Stopped d e := by
  unfold Stopped
  rw [h.ctrl, h.peerCtrl]

theorem runFeatureProtocol_status {n : Nat} (h : runFeatureProtocol drv d e n = .ok (d', st)) :
    st = .success ∨ st = .deviceNotFound ∧ target (e, n) = none ∨ Stopped d e := by
  cases ha : d.active with
  | false =>
    unfold runFeatureProtocol at h
    simp only [ha, Bool.not_false, ↓reduceIte] at h
    cases h
    exact .inl rfl
  | true =>
    cases hf : target (e, n) with
    | none =>
      have hf : findFeature n e = none := hf
      unfold runFeatureProtocol at h
      simp only [ha, Bool.not_true, Bool.false_eq_true, ↓reduceIte, hf] at h
      cases h
      exact .inr (.inl ⟨rfl, rfl⟩)
    | some g =>
      obtain ⟨v, hv, -⟩ := (runFeatureProtocol_eq_ok ha hf).mp h
      by_cases hst : st = .success
      · exact .inl hst
      · exact .inr (.inr (Stores.featureMachine_status hv hst))

/-! ### Sequences of calls -/

/-- Calls of `run_feature_protocol`, one after another. -/
inductive Calls (drv : Driver) : Device → List (ChangeEvent × Nat) → Device → Prop
  | nil (d : Device) : Calls drv d [] d
  | skip {d d' : Device} {call : ChangeEvent × Nat} {calls : List (ChangeEvent × Nat)}
      (hs : Stopped d call.1) (h : Calls drv d calls d') : Calls drv d (call :: calls) d'
  | call {d d₁ d' : Device} {call : ChangeEvent × Nat} {calls : List (ChangeEvent × Nat)}
      {st : CmdStatus} (hc : runFeatureProtocol drv d call.1 call.2 = .ok (d₁, st))
      (h : Calls drv d₁ calls d') : Calls drv d (call :: calls) d'

namespace Calls

variable {calls : List (ChangeEvent × Nat)}

theorem append {calls' : List (ChangeEvent × Nat)} {d₁ d₂ : Device}
    (h : Calls drv d calls d₁) (h' : Calls drv d₁ calls' d₂) :
    Calls drv d (calls ++ calls') d₂ := by
  induction h with
  | nil d => exact h'
  | skip hs _ ih => exact .skip hs (ih h')
  | call hc _ ih => exact .call hc (ih h')

theorem sameControl (h : Calls drv d calls d') : SameControl d d' := by
  induction h with
  | nil d => exact .refl d
  | skip _ _ ih => exact ih
  | call hc _ ih => exact (runFeatureProtocol_frame hc).1.trans ih

theorem get_eq (h : Calls drv d calls d') {f : Feature} (hf : some f ∉ calls.map target) :
    d'.get f = d.get f := by
  induction h with
  | nil d => rfl
  | skip _ _ ih => exact ih fun hm => hf (List.mem_cons_of_mem _ hm)
  | call hc _ ih =>
    rw [ih fun hm => hf (List.mem_cons_of_mem _ hm)]
    refine (runFeatureProtocol_frame hc).2 f fun ht => hf ?_
    rw [List.map_cons, ← ht]
    exact List.mem_cons_self ..

/-- A feature that one call finds runs its machine, with the stores that it had at the start,
or the versions stop the call. `d₀` is the device at the time of the call. -/
theorem ran_or_stopped (h : Calls drv d calls d') {call : ChangeEvent × Nat}
    (hc : call ∈ calls) {f : Feature} (hf : target call = some f)
    (hnd : (calls.map target).Nodup) (ha : d.active = true) :
    (∃ d₀ st, SameControl d d₀ ∧ d₀.get f = d.get f ∧
      (d.get f).featureMachine (ops drv d₀ f) call.1.side (dupOf d f) (call.1 = .pfc .loc)
        d.ctrl d.peerCtrl = .ok (d'.get f, st)) ∨
      Stopped d call.1 ∧ d'.get f = d.get f := by
  induction h with
  | nil d => cases hc
  | @skip d d' call' calls hs h ih =>
    rw [List.map_cons, List.nodup_cons] at hnd
    rcases List.mem_cons.mp hc with rfl | hc
    · exact .inr ⟨hs, h.get_eq (by rw [← hf]; exact hnd.1)⟩
    · exact ih hc hnd.2 ha
  | @call d d₁ d' call' calls st hrun h ih =>
    obtain ⟨hsame, hget⟩ := runFeatureProtocol_frame hrun
    rw [List.map_cons, List.nodup_cons] at hnd
    rcases List.mem_cons.mp hc with rfl | hc
    · -- The call itself. No later one finds the feature.
      obtain ⟨v, hv, rfl⟩ := (runFeatureProtocol_eq_ok ha hf).mp hrun
      have hlater : d'.get f = v := by
        rw [h.get_eq (by rw [← hf]; exact hnd.1)]
        exact Device.set_get_self d f v
      rw [hlater]
      exact .inl ⟨d, st, .refl d, rfl, hv⟩
    · -- The calls before it leave the stores of the feature alone.
      have hne : target call' ≠ some f := by
        intro ht
        refine hnd.1 ?_
        rw [ht, ← hf]
        exact List.mem_map_of_mem hc
      rcases ih hc hnd.2 (hsame.active.trans ha) with ⟨d₀, st, hs₀, hg₀, hm⟩ | ⟨hs, hg⟩
      · have hdup : dupOf d₁ f = dupOf d f := by
          unfold dupOf
          rw [Device.peerProt, hget f hne]
        rw [hget f hne, hdup, hsame.ctrl, hsame.peerCtrl] at hm
        exact .inl ⟨d₀, st, hsame.trans hs₀, hg₀.trans (hget f hne), hm⟩
      · exact .inr ⟨hsame.stopped.mp hs, hg.trans (hget f hne)⟩

end Calls

/-! ### The calls of an event -/

theorem callFeature_calls {calls : List (ChangeEvent × Nat)}
    {x y : Device × CmdStatus} (hside : ∀ c ∈ calls, c.1.side = side)
    (hx : x.2 = .ctrlVersNotCompatible →
      side = .rem ∧ Stores.versionsAgree x.1.ctrl x.1.peerCtrl = false)
    (h : calls.foldlM (callFeature drv) x = .ok y) :
    Calls drv x.1 calls y.1 ∧ (y.2 = .ctrlVersNotCompatible →
      side = .rem ∧ Stores.versionsAgree y.1.ctrl y.1.peerCtrl = false) := by
  induction calls generalizing x with
  | nil =>
    cases h
    exact ⟨.nil _, hx⟩
  | cons c cs ih =>
    rw [List.foldlM_cons] at h
    obtain ⟨⟨d₁, st⟩, hc, h⟩ := bind_eq_ok.mp h
    have hc : runFeatureProtocol drv x.1 c.1 c.2 = .ok (d₁, st) := hc
    obtain ⟨hsame, -⟩ := runFeatureProtocol_frame hc
    -- The versions are the only reason for this status.
    have hst : st = .ctrlVersNotCompatible →
        side = .rem ∧ Stores.versionsAgree d₁.ctrl d₁.peerCtrl = false := by
      intro hst
      rcases runFeatureProtocol_status hc with hs | ⟨hs, -⟩ | ⟨hs, hv⟩
      · exact absurd (hst.symm.trans hs) (by decide)
      · exact absurd (hst.symm.trans hs) (by decide)
      · rw [hsame.ctrl, hsame.peerCtrl]
        exact ⟨(hside c (List.mem_cons_self ..)).symm.trans hs, hv⟩
    obtain ⟨hcalls, hy⟩ := ih (fun c' hc' => hside c' (List.mem_cons_of_mem _ hc')) hst h
    exact ⟨.call hc hcalls, hy⟩

theorem skip_all {calls : List (ChangeEvent × Nat)} (h : ∀ c ∈ calls, Stopped d c.1) :
    Calls drv d calls d := by
  induction calls with
  | nil => exact .nil d
  | cons c cs ih =>
    exact .skip (h c (List.mem_cons_self ..))
      (ih fun c' hc' => h c' (List.mem_cons_of_mem _ hc'))

theorem callBlock_calls {blocks : List (List (ChangeEvent × Nat))}
    {x y : Device × CmdStatus} (hside : ∀ b ∈ blocks, ∀ c ∈ b, c.1.side = side)
    (hx : x.2 = .ctrlVersNotCompatible →
      side = .rem ∧ Stores.versionsAgree x.1.ctrl x.1.peerCtrl = false)
    (h : blocks.foldlM (callBlock drv) x = .ok y) : Calls drv x.1 blocks.flatten y.1 := by
  induction blocks generalizing x with
  | nil =>
    cases h
    exact .nil _
  | cons b bs ih =>
    have hb := hside b (List.mem_cons_self ..)
    have hbs : ∀ b' ∈ bs, ∀ c ∈ b', c.1.side = side := fun b' hb' =>
      hside b' (List.mem_cons_of_mem _ hb')
    rw [List.foldlM_cons] at h
    obtain ⟨z, hz, h⟩ := bind_eq_ok.mp h
    rw [List.flatten_cons]
    unfold callBlock at hz
    split at hz
    · rename_i hst
      cases hz
      obtain ⟨hs, hv⟩ := hx hst
      exact (skip_all fun c hc => ⟨(hb c hc).trans hs, hv⟩).append (ih hbs hx h)
    · obtain ⟨hcalls, hz⟩ := callFeature_calls hb hx hz
      exact hcalls.append (ih hbs hz h)

theorem featureCalls_side {flags : EventFlag} {subtype : Nat} :
    ∀ b ∈ featureCalls side flags subtype, ∀ c ∈ b, c.1.side = side := by
  intro b hb c hc
  simp only [featureCalls, List.mem_cons, List.not_mem_nil, or_false] at hb
  rcases hb with rfl | rfl | rfl | rfl
  · split at hc
    · rw [List.mem_singleton.mp hc]
      rfl
    · cases hc
  · split at hc
    · rw [List.mem_singleton.mp hc]
      rfl
    · cases hc
  · split at hc
    · obtain ⟨i, -, rfl⟩ := List.mem_map.mp hc
      rfl
    · cases hc
  · split at hc
    · rw [List.mem_singleton.mp hc]
      rfl
    · cases hc

theorem runFeatures_calls {flags : EventFlag} {subtype : Nat}
    (h : runFeatures drv d flags subtype = .ok d') :
    Calls drv d (featureCalls (changeSide flags subtype) flags subtype).flatten d' := by
  obtain ⟨x, hx, h⟩ := bind_eq_ok.mp h
  cases h
  refine callBlock_calls featureCalls_side ?_ hx
  intro h
  have h : CmdStatus.success = .ctrlVersNotCompatible := h
  exact absurd h (by decide)

theorem runAdded_calls {calls : List (ChangeEvent × Nat)} {ok : Bool}
    (hcalls : ∀ c ∈ calls, c.1.side = .loc ∧ target c ≠ none)
    (h : runAdded drv calls d = .ok (d', ok)) : Calls drv d calls d' ∧ ok = true := by
  induction calls generalizing d with
  | nil =>
    cases h
    exact ⟨.nil _, rfl⟩
  | cons c cs ih =>
    obtain ⟨⟨d₁, st⟩, hc, h⟩ := bind_eq_ok.mp h
    obtain ⟨hside, htarget⟩ := hcalls c (List.mem_cons_self ..)
    have hst : st = .success := by
      rcases runFeatureProtocol_status hc with hs | ⟨-, ht⟩ | ⟨hs, -⟩
      · exact hs
      · exact absurd ht htarget
      · exact absurd (hside.symm.trans hs) (by decide)
    dsimp only at h
    rw [if_pos hst] at h
    obtain ⟨hrest, hok⟩ := ih (fun c' hc' => hcalls c' (List.mem_cons_of_mem _ hc')) h
    exact ⟨.call hc hrest, hok⟩

end Lldpad.Dcbx
