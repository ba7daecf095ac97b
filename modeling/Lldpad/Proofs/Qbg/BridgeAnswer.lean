import Lldpad.Proofs.Qbg.KeepAlive
import Mathlib.Data.List.GetD

/-!
# `Lldpad.Proofs.Qbg.BridgeAnswer`: what the bridge answers to a station

`BridgeAnswer` is the contract between a request of the station and the reply of the bridge.
A disassociated VSI leaves the queue, and a granted association becomes the current mode of
its node.

The model keeps both parts apart from how they come about: a reply is read in the bytes that
go to the ECP module, and the node in the queue. `bridgeAnswer_iff` says that the bridge
fulfils the contract only where it has nothing to fulfil.
-/

namespace Lldpad.Qbg

open Lldpad.Lib
open Lldpad.Lldp (Bytes)

/-- The mode of the VSI TLV in a message, which starts with a manager ID TLV. -/
def msgMode (msg : Bytes) : UInt8 := msg.getD mgr22PtlvSz 0 >>> 1

/-- The status of the VSI TLV in a message. -/
def msgStatus (msg : Bytes) : UInt8 := msg.getD (mgr22PtlvSz + 2) 0

/-- The bridge answers the request `vsip` as it should: a node that the station disassociates
leaves the queue, with one reply that acknowledges it, and a reply without an error carries
the mode that was granted, which is the current mode of the node from then on. -/
structure BridgeAnswer (c : Vdp22Ctx) (vsip : Vsi22) (c' : Vdp22Ctx) : Prop where
  deassoc : vsip.vsiMode = vdp22Deassoc → ∀ h, vdp22Findvsi c vsip = some h →
    (c.nodes h).vsi.flags.busy = false → vdp22CmpFdata (c.nodes h).vsi vsip = true →
    h ∉ c'.que ∧ ∃ msg, c'.sent = c.sent ++ [msg] ∧ msgMode msg = vdp22Deassoc ∧
      msgStatus msg &&& vdp22Ackbit ≠ 0
  assoc : vsip.vsiMode ≠ vdp22Deassoc → ∀ msg ∈ c'.sent.drop c.sent.length,
    msgStatus msg = vdp22Ackbit → msgMode msg = vsip.vsiMode ∧
      ∃ h, vdp22Findvsi c' vsip = some h ∧ (c'.nodes h).vsi.ccVsiMode = msgMode msg

/-- The request names a node and its filter entries, or it makes a new node. -/
def Granted (c : Vdp22Ctx) (vsip : Vsi22) : Prop :=
  match vdp22Findvsi c vsip with
  | some h => vdp22CmpFdata (c.nodes h).vsi vsip = true
  | none => vsip.vsiMode ≠ vdp22Deassoc ∧ (vdp22CopyVsi vsip c.gpid).isSome

/-! ### Messages -/

theorem mgr22ToTlv_length (v : Vsi22) : (mgr22ToTlv v).length = mgr22PtlvSz := by
  have hmgrid : v.mgrid.bytes.length = 16 := v.mgrid.length_eq
  rw [mgr22ToTlv, List.length_append, hmgrid]
  rfl

theorem getD_vdp22Msg (v : Vsi22) (stat : UInt8) (i : Nat) :
    (vdp22Msg v stat).getD (mgr22PtlvSz + i) 0 = (vsi22ToTlv v stat).getD i 0 := by
  rw [vdp22Msg, List.getD_append_right _ _ _ _ (by rw [mgr22ToTlv_length]; omega),
    mgr22ToTlv_length, Nat.add_sub_cancel_left]

theorem msgStatus_vdp22Msg (v : Vsi22) (stat : UInt8) : msgStatus (vdp22Msg v stat) = stat := by
  rw [msgStatus, getD_vdp22Msg]
  rfl

theorem msgMode_vdp22Msg {v : Vsi22} (stat : UInt8) (hmode : v.vsiMode.toNat < 128) :
    msgMode (vdp22Msg v stat) = v.vsiMode := by
  have hbyte : (vdp22Msg v stat).getD mgr22PtlvSz 0 =
      (ptlvHead v.vsiMode (vsi22TlvSz v.fdata.length v.fif) >>> 8).toUInt8 := getD_vdp22Msg v stat 0
  have hhead := ptlvHead_toNat v.vsiMode (vsi22TlvSz v.fdata.length v.fif)
  rw [msgMode, hbyte, ← UInt8.toNat_inj, UInt8.toNat_shiftRight, UInt16.toNat_toUInt8,
    UInt16.toNat_shiftRight, hhead]
  show ((_ >>> 8) % 256) >>> 1 = _
  rw [Nat.shiftRight_eq_div_pow, Nat.shiftRight_eq_div_pow]
  omega

/-! ### What the bridge does -/

theorem brWait_put {c : Vdp22Ctx} {h : Nat} {y : Vsi22Ctx} (hy : BrWait y)
    (hc : ∀ i ∈ (c.put h y).que, i ≠ h → BrWait (c.nodes i)) :
    ∀ i ∈ (c.put h y).que, BrWait ((c.put h y).nodes i) := by
  intro i hi
  rcases eq_or_ne i h with rfl | hne
  · rw [Vdp22Ctx.put_nodes_self]
    exact hy.reset
  · rw [Vdp22Ctx.put_nodes_of_ne c y hne]
    exact hc i hi hne

/-- What the bridge does with a request that it grants: it sends one reply with the mode of
the request, and keeps the node. No node has another current mode than DEASSOC. -/
theorem granted_reply {c c' : Vdp22Ctx} {vsip : Vsi22} (hreach : vdp22System.Reachable c)
    (hrole : c.myrole = .bridge) (hmode : isVsiMode vsip.vsiMode = true)
    (hgranted : Granted c vsip) (he : vdp22StationInfo vsip c = .ok c') :
    (∃ msg, c'.sent = c.sent ++ [msg] ∧ msgMode msg = vsip.vsiMode ∧
      msgStatus msg = vdp22Ackbit) ∧
    (∀ h, vdp22Findvsi c vsip = some h → h ∈ c'.que) ∧
    ∀ h ∈ c'.que, (c'.nodes h).vsi.ccVsiMode = vdp22Deassoc := by
  obtain ⟨hwf, hwait⟩ := brWait_of_reachable hreach hrole
  have hlt : vsip.vsiMode.toNat < 128 := by
    unfold isVsiMode at hmode
    simp only [Bool.or_eq_true, beq_iff_eq] at hmode
    rcases hmode with ((hm | hm) | hm) | hm <;> (rw [hm]; decide)
  have hmsg : ∀ y : Vsi22Ctx, y.vsi.vsiMode = vsip.vsiMode → y.vsi.status = vdp22Ackbit →
      msgMode (vdp22Msg y.vsi y.vsi.status) = vsip.vsiMode ∧
        msgStatus (vdp22Msg y.vsi y.vsi.status) = vdp22Ackbit := fun y hy hst =>
    ⟨(msgMode_vdp22Msg _ (hy ▸ hlt)).trans hy, (msgStatus_vdp22Msg _ _).trans hst⟩
  unfold Granted at hgranted
  unfold vdp22StationInfo at he
  cases hfind : vdp22Findvsi c vsip with
  | some h =>
    rw [hfind] at hgranted he
    obtain ⟨y, hrun, hput⟩ := bind_eq_ok.mp he
    cases hput
    have hmem := mem_of_findvsi hfind
    rcases vdp22StationHit_cases (hwait h hmem) hrun with ⟨hcmp, -⟩ | ⟨-, hreplied⟩
    · exact absurd (hcmp.symm.trans hgranted) (by decide)
    have hque : (c.put h y).que = c.que := if_neg (by rw [hreplied.wait.live]; decide)
    refine ⟨⟨_, ?_, hmsg y hreplied.vsiMode hreplied.status⟩, fun i hi => ?_, fun i hi => ?_⟩
    · show c.sent ++ y.sent = _
      have hnil : (c.nodes h).sent = [] := by rw [← hwf.taken h]; rfl
      rw [hreplied.sent]
      show c.sent ++ ((c.nodes h).sent ++ _) = _
      rw [hnil, List.nil_append]
    · cases hi
      rw [hque]
      exact hmem
    · exact (brWait_put hreplied.wait (fun i hi _ => hwait i (hque ▸ hi)) i hi).cc
  | none =>
    rw [hfind] at hgranted he
    obtain ⟨hdeassoc, hsome⟩ := hgranted
    dsimp only at he
    rw [if_neg hdeassoc] at he
    obtain ⟨v, hcopy⟩ := Option.isSome_iff_exists.mp hsome
    rw [hcopy] at he
    obtain ⟨y, hrun, hput⟩ := bind_eq_ok.mp he
    cases hput
    have hv : v.vsiMode = vsip.vsiMode := by
      unfold vdp22CopyVsi at hcopy
      split_ifs at hcopy
      cases hcopy
      rfl
    rw [Vdp22Ctx.insertHead_nodes_self] at hrun
    obtain ⟨w, hw, hreplied⟩ := vdp22brRun_begin (x := { vsi := { v with
      flags := { busy := true }
      smi := { v.smi with state := .bridge .begin } } }) rfl rfl (hv ▸ hdeassoc) rfl rfl
    cases Except.ok.inj (hw.symm.trans hrun)
    refine ⟨⟨_, ?_, hmsg y (hreplied.vsiMode.trans hv) hreplied.status⟩, fun _ => nofun,
      fun i hi => ?_⟩
    · show c.sent ++ y.sent = _
      rw [hreplied.sent]
      rfl
    · refine (brWait_put hreplied.wait (fun i hi hne => ?_) i hi).cc
      have hold : i ∈ c.que :=
        (List.mem_cons.mp (Vdp22Ctx.mem_of_mem_put hi)).resolve_left hne
      rw [Vdp22Ctx.insertHead_nodes_of_ne c v _ _ hne]
      exact hwait i hold

/-- What the bridge does with a request that it does not grant: at most one reply with an
error. -/
theorem refused_reply {c c' : Vdp22Ctx} {vsip : Vsi22} (hreach : vdp22System.Reachable c)
    (hrole : c.myrole = .bridge) (hgranted : ¬ Granted c vsip)
    (hdeassoc : vsip.vsiMode ≠ vdp22Deassoc) (he : vdp22StationInfo vsip c = .ok c') :
    ∀ msg ∈ c'.sent.drop c.sent.length, msgStatus msg ≠ vdp22Ackbit := by
  obtain ⟨hwf, hwait⟩ := brWait_of_reachable hreach hrole
  unfold Granted at hgranted
  unfold vdp22StationInfo at he
  cases hfind : vdp22Findvsi c vsip with
  | some h =>
    rw [hfind] at hgranted he
    obtain ⟨y, hrun, hput⟩ := bind_eq_ok.mp he
    cases hput
    rcases vdp22StationHit_cases (hwait h (mem_of_findvsi hfind)) hrun with ⟨-, -, -, hsent, -⟩ |
      ⟨hcmp, -⟩
    · have hnil : (c.nodes h).sent = [] := by rw [← hwf.taken h]; rfl
      show ∀ msg ∈ (c.sent ++ y.sent).drop c.sent.length, _
      rw [hsent, hnil, List.append_nil, List.drop_length]
      exact fun msg hmsg => absurd hmsg List.not_mem_nil
    · exact absurd hcmp hgranted
  | none =>
    rw [hfind] at hgranted he
    dsimp only at he
    rw [if_neg hdeassoc] at he
    cases hcopy : vdp22CopyVsi vsip c.gpid with
    | some v => exact absurd ⟨hdeassoc, by rw [hcopy]; rfl⟩ hgranted
    | none =>
      rw [hcopy] at he
      cases he
      rw [List.drop_left]
      intro msg hmsg
      rw [List.mem_singleton.mp hmsg, msgStatus_vdp22Msg]
      decide

/-- The bridge answers a request as it should exactly when it does not grant it. -/
theorem bridgeAnswer_iff (c c' : Vdp22Ctx) (vsip : Vsi22) (hreach : vdp22System.Reachable c)
    (hrole : c.myrole = .bridge) (hmode : isVsiMode vsip.vsiMode = true)
    (he : vdp22StationInfo vsip c = .ok c') : BridgeAnswer c vsip c' ↔ ¬ Granted c vsip := by
  constructor
  · intro hanswer hgranted
    obtain ⟨⟨msg, hsent, hmsgMode, hstatus⟩, hkept, hcc⟩ :=
      granted_reply hreach hrole hmode hgranted he
    by_cases hdeassoc : vsip.vsiMode = vdp22Deassoc
    · -- the node stays in the queue
      obtain ⟨-, hwait⟩ := brWait_of_reachable hreach hrole
      unfold Granted at hgranted
      cases hfind : vdp22Findvsi c vsip with
      | some h =>
        rw [hfind] at hgranted
        have hbusy := (hwait h (mem_of_findvsi hfind)).busy
        exact (hanswer.deassoc hdeassoc h hfind hbusy hgranted).1 (hkept h hfind)
      | none =>
        rw [hfind] at hgranted
        exact hgranted.1 hdeassoc
    · -- the current mode is not the granted one
      have hmem : msg ∈ c'.sent.drop c.sent.length := by
        rw [hsent, List.drop_left]
        exact List.mem_singleton_self msg
      obtain ⟨-, h, hfind, hcurrent⟩ := hanswer.assoc hdeassoc msg hmem hstatus
      rw [hcc h (mem_of_findvsi hfind), hmsgMode] at hcurrent
      exact hdeassoc hcurrent.symm
  · intro hgranted
    refine ⟨fun hdeassoc h hfind _ hcmp => ?_, fun hdeassoc msg hmsg hstatus => ?_⟩
    · refine absurd ?_ hgranted
      unfold Granted
      rw [hfind]
      exact hcmp
    · exact absurd hstatus (refused_reply hreach hrole hgranted hdeassoc he msg hmsg)

/-- A bridge without a node acknowledges a disassociation, as it should. -/
theorem unknown_bridgeAnswer :
    BridgeAnswer (vdp22Create .bridge) (vlanRequest vdp22Deassoc 5)
      { vdp22Create .bridge with sent := [vdp22Msg (vlanRequest vdp22Deassoc 5) vdp22Ackbit] } :=
  (bridgeAnswer_iff (vdp22Create .bridge) _ (vlanRequest vdp22Deassoc 5)
    ⟨_, [], ⟨.bridge, rfl⟩, rfl⟩ rfl (by decide) rfl).mpr fun hgranted => hgranted.1 rfl

/-- An associated VSI that its station disassociates stays in the queue. -/
theorem not_bridgeAnswer :
    ¬ ∀ (c c' : Vdp22Ctx) (vsip : Vsi22), vdp22System.Reachable c → c.myrole = .bridge →
      isVsiMode vsip.vsiMode = true → vdp22StationInfo vsip c = .ok c' →
      BridgeAnswer c vsip c' := by
  intro h
  obtain ⟨c, c', hrun, hrole, he, hfind, hbusy, hcmp, hque⟩ : ∃ c c',
      vdp22System.run (vdp22Create .bridge) [.tlv (vlanRequest vdp22Assoc 5)] = .ok c ∧
      c.myrole = .bridge ∧ vdp22StationInfo (vlanRequest vdp22Deassoc 5) c = .ok c' ∧
      vdp22Findvsi c (vlanRequest vdp22Deassoc 5) = some 0 ∧
      (c.nodes 0).vsi.flags.busy = false ∧
      vdp22CmpFdata (c.nodes 0).vsi (vlanRequest vdp22Deassoc 5) = true ∧ 0 ∈ c'.que :=
    ⟨_, _, rfl, rfl, rfl, rfl, rfl, rfl, List.mem_cons_self ..⟩
  have hanswer := h c c' (vlanRequest vdp22Deassoc 5) ⟨_, _, ⟨.bridge, rfl⟩, hrun⟩ hrole (by decide)
    he
  exact (hanswer.deassoc rfl 0 hfind hbusy hcmp).1 hque

end Lldpad.Qbg
