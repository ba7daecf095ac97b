import Lldpad.Proofs.Qbg.Ecp22Frames

/-!
# `Lldpad.Proofs.Qbg.Ecp22Sender`: which payload goes out under which number

While the port stays enabled, payload number `k` of the queue is sent under the sequence
number `seqOf k`, and payloads are sent in the order in which they were queued.

* `seqOf`, `incSeqno_seqOf`: the sequence numbers, which skip zero.
* `Ledger`: the queue, the payload in the transmit buffer and what went out.
* `ecp22TxRunSm_ledger`: every run keeps the ledger.
-/

namespace Lldpad.Qbg

open Lldpad.Lib
open Lldpad.Lldp (Bytes Port)

/-! ### Sequence numbers -/

/-- The sequence number of payload `k`. -/
def seqOf (k : Nat) : UInt16 := UInt16.ofNat (k % 65535 + 1)

theorem seqOf_toNat (k : Nat) : (seqOf k).toNat = k % 65535 + 1 := by
  have hlt : k % 65535 < 65535 := Nat.mod_lt _ (by decide)
  rw [seqOf, UInt16.toNat_ofNat']
  exact Nat.mod_eq_of_lt (by omega)

theorem incSeqno_zero : incSeqno 0 = seqOf 0 := by decide

theorem incSeqno_seqOf (k : Nat) : incSeqno (seqOf k) = seqOf (k + 1) := by
  have hk := seqOf_toNat k
  have hsucc : (seqOf k + 1).toNat = (k % 65535 + 1 + 1) % 65536 := by
    rw [UInt16.toNat_add, hk]
    rfl
  unfold incSeqno
  dsimp only
  split
  · next hzero =>
    have hzero' : (seqOf k + 1).toNat = 0 := by rw [hzero]; rfl
    rw [hzero]
    refine UInt16.toNat_inj.mp ?_
    rw [seqOf_toNat]
    show 1 = _
    omega
  · next hne =>
    refine UInt16.toNat_inj.mp ?_
    rw [hsucc, seqOf_toNat]
    have hne' : (seqOf k + 1).toNat ≠ 0 := fun h => hne (UInt16.toNat_inj.mp h)
    omega

theorem seqOf_eq_iff {i j : Nat} : seqOf i = seqOf j ↔ i % 65535 = j % 65535 := by
  rw [← UInt16.toNat_inj, seqOf_toNat, seqOf_toNat]
  omega

/-! ### The ledger -/

/-- The frame of the payload at place `k`. -/
def Ecp22Ctx.frameOf (c : Ecp22Ctx) (k : Nat) : Bytes :=
  requestFrame c.ownSrcAddr (seqOf k) (payloadNode (c.trace.queued.getD k []))

/-- The port is there and enabled. -/
def LinkUp (c : Ecp22Ctx) : Prop := ∃ p, c.port = some p ∧ p.portEnabled = true

/-- The queue and what went out since `since` payloads had been put into the buffer. -/
structure Ledger (since : Nat) (c : Ecp22Ctx) : Prop where
  up : LinkUp c
  inuse : c.ecp.inuse = (c.trace.queued.drop c.trace.built).map payloadNode
  built_le : c.trace.built ≤ c.trace.queued.length
  fits : ∀ du ∈ c.trace.queued, du.length < ecp22MaxpayloadLen
  since_le : since ≤ c.trace.built
  wire : c.wire = c.trace.places.map c.frameOf
  order : c.trace.places.Pairwise fun i j => j ≤ i
  range : ∀ i ∈ c.trace.places, since - 1 ≤ i ∧ i < c.trace.built

/-- The sequence number in the transmit buffer. `acted` tells whether the action of the state
has been done. -/
def Numbered (acted : Bool) (c : Ecp22Ctx) : Prop :=
  match c.ecp.tx.state with
  | .txBegin => c.trace.built = 0
  | .txInit => c.trace.built = 0 ∧ (acted = true → c.ecp.tx.seqno = 0)
  | .txWaitForreq =>
    (if acted then c.ecp.tx.seqno else incSeqno c.ecp.tx.seqno) = seqOf c.trace.built
  | .txWaitOndata => c.ecp.tx.seqno = seqOf c.trace.built
  | .txError => 1 ≤ c.trace.built ∧ c.ecp.tx.seqno = seqOf (c.trace.built - 1)
  | .txTxmitEcpdu => 1 ≤ c.trace.built ∧ c.ecp.tx.seqno = seqOf (c.trace.built - 1) ∧
      c.ecp.tx.frame.take c.ecp.tx.frameLen = c.frameOf (c.trace.built - 1)

variable {c c' d : Ecp22Ctx} {since : Nat}

theorem Ledger.congr (h : Ledger since c) (hup : LinkUp d)
    (hinuse : d.ecp.inuse = c.ecp.inuse) (haddr : d.ownSrcAddr = c.ownSrcAddr)
    (hqueued : d.trace.queued = c.trace.queued) (hbuilt : d.trace.built = c.trace.built)
    (hwire : d.wire = c.wire) (hplaces : d.trace.places = c.trace.places) : Ledger since d := by
  have hframe : d.frameOf = c.frameOf := by
    funext k
    rw [Ecp22Ctx.frameOf, Ecp22Ctx.frameOf, haddr, hqueued]
  refine ⟨hup, ?_, ?_, ?_, ?_, ?_, ?_, ?_⟩
  · rw [hinuse, hqueued, hbuilt]; exact h.inuse
  · rw [hqueued, hbuilt]; exact h.built_le
  · rw [hqueued]; exact h.fits
  · rw [hbuilt]; exact h.since_le
  · rw [hwire, hplaces, hframe]; exact h.wire
  · rw [hplaces]; exact h.order
  · rw [hplaces, hbuilt]; exact h.range

theorem startState_of_up {p : Port} (h : LinkUp c) (hp : c.port = some p) :
    c.startState p = c.ecp.tx.state ∧ p.portEnabled = true := by
  obtain ⟨q, hq, hup⟩ := h
  obtain rfl : q = p := Option.some.inj (hq.symm.trans hp)
  refine ⟨?_, hup⟩
  rw [Ecp22Ctx.startState, falls, hup]
  rfl

/-- An action enters its transmission into the ledger. -/
theorem ledger_act (h : Ledger since c) (hn : Numbered false c) :
    Ledger since (ecp22TxAction c) ∧ Numbered true (ecp22TxAction c) := by
  have hup : LinkUp (ecp22TxAction c) := by
    obtain ⟨p, hp, hpe⟩ := h.up
    exact ⟨p, (txAction_port c).trans hp, hpe⟩
  have hstate := txAction_state c
  unfold Numbered at hn ⊢
  rw [hstate]
  cases hs : c.ecp.tx.state with
  | txBegin | txWaitOndata =>
    rw [hs] at hn
    have heq : ecp22TxAction c = c := by rw [ecp22TxAction, hs]
    rw [heq]
    exact ⟨h, hn⟩
  | txInit =>
    rw [hs] at hn
    have heq : ecp22TxAction c = ecp22EsInittransmit c := by rw [ecp22TxAction, hs]
    rw [heq] at hup ⊢
    exact ⟨h.congr hup rfl rfl rfl rfl rfl rfl, hn.1, fun _ => rfl⟩
  | txWaitForreq =>
    rw [hs] at hn
    have heq : ecp22TxAction c = ecp22EsWaitforreq c := by rw [ecp22TxAction, hs]
    rw [heq] at hup ⊢
    exact ⟨h.congr hup rfl rfl rfl rfl rfl rfl, hn⟩
  | txError =>
    rw [hs] at hn
    have heq : ecp22TxAction c = ecp22EsCounterror c := by rw [ecp22TxAction, hs]
    rw [heq] at hup ⊢
    exact ⟨h.congr hup rfl rfl rfl rfl rfl rfl, hn⟩
  | txTxmitEcpdu =>
    rw [hs] at hn
    obtain ⟨hpos, hseq, hframe⟩ := hn
    have heq : ecp22TxAction c = ecp22EsTxmit c := by rw [ecp22TxAction, hs]
    rw [heq] at hup ⊢
    refine ⟨⟨hup, h.inuse, h.built_le, h.fits, h.since_le, ?_, ?_, ?_⟩, hpos, hseq, hframe⟩
    · show c.ecp.tx.frame.take c.ecp.tx.frameLen :: c.wire
        = c.frameOf (c.trace.built - 1) :: c.trace.places.map c.frameOf
      rw [hframe, h.wire]
    · refine List.pairwise_cons.mpr ⟨fun i hi => ?_, h.order⟩
      have := (h.range i hi).2
      omega
    · intro i hi
      have hsince := h.since_le
      rcases List.mem_cons.mp hi with rfl | hi
      · show since - 1 ≤ c.trace.built - 1 ∧ c.trace.built - 1 < c.trace.built
        omega
      · exact h.range i hi

/-- The payload in front of the queue goes into the buffer. -/
theorem ledger_build (h : Ledger since c)
    (hseq : c.ecp.tx.seqno = seqOf c.trace.built) (hdata : c.ecp.inuse ≠ []) :
    Ledger since (ecp22BuildEcpdu c) ∧
      Numbered false ((ecp22BuildEcpdu c).withTxState .txTxmitEcpdu) := by
  have hinuse := h.inuse
  cases hdrop : c.trace.queued.drop c.trace.built with
  | nil =>
    rw [hdrop] at hinuse
    exact absurd hinuse hdata
  | cons du rest =>
    rw [hdrop] at hinuse
    have hlt : c.trace.built < c.trace.queued.length := by
      refine Nat.lt_of_not_le fun hle => ?_
      rw [List.drop_eq_nil_of_le hle] at hdrop
      exact absurd hdrop nofun
    have hget : c.trace.queued.getD c.trace.built [] = du := by
      have hhead := List.drop_eq_getElem_cons hlt
      rw [hdrop, List.cons.injEq] at hhead
      rw [List.getD_eq_getElem _ _ hlt, hhead.1]
    have hrest : c.trace.queued.drop (c.trace.built + 1) = rest := by
      rw [← List.drop_drop, hdrop]
      rfl
    have hfit : du.length < ecp22MaxpayloadLen := by
      refine h.fits du (hget ▸ ?_)
      rw [List.getD_eq_getElem _ _ hlt]
      exact List.getElem_mem hlt
    have hbuild : ecp22BuildEcpdu c = { c with
        ecp := ecp22Putnode { c.ecp with
          tx := { c.ecp.tx with
            ecpduReceived := true
            frame := (ecp22Frame c.ownSrcAddr c.ecp.tx.seqno (payloadNode du)).1
            frameLen := (ecp22Frame c.ownSrcAddr c.ecp.tx.seqno (payloadNode du)).2 }
          inuse := rest.map payloadNode }
        trace := { c.trace with log := .build :: c.trace.log, built := c.trace.built + 1 } } := by
      unfold ecp22BuildEcpdu
      rw [hinuse]
      rfl
    have hframe : (ecp22Frame c.ownSrcAddr c.ecp.tx.seqno (payloadNode du)).1.take
        (ecp22Frame c.ownSrcAddr c.ecp.tx.seqno (payloadNode du)).2 = c.frameOf c.trace.built := by
      rw [ecp22Frame_take c.ownSrcAddr c.ecp.tx.seqno (p := payloadNode du) hfit, hseq,
        Ecp22Ctx.frameOf, hget]
    rw [hbuild]
    refine ⟨⟨h.up, ?_, hlt, h.fits, Nat.le_succ_of_le h.since_le, h.wire, h.order, ?_⟩, ?_⟩
    · show (ecp22Putnode _).inuse = (c.trace.queued.drop (c.trace.built + 1)).map payloadNode
      rw [ecp22Putnode_inuse, hrest]
    · intro i hi
      have := h.range i hi
      exact ⟨this.1, Nat.lt_succ_of_lt this.2⟩
    · simp only [Ecp22Ctx.withTxState, ecp22Putnode_tx]
      exact ⟨Nat.le_add_left 1 _, hseq, hframe⟩

/-- A move keeps the ledger. -/
theorem ledger_move {b : Bool} (h : Ledger since c) (hn : Numbered true c) (hm : TxMove c d b) :
    Ledger since d ∧ Numbered false d ∧ (b = false → Numbered true d) := by
  have hseen : ∀ p, c.port = some p → Ledger since (c.seen p) := fun p hp =>
    h.congr ⟨_, rfl, (startState_of_up h.up hp).2⟩ rfl rfl rfl rfl rfl rfl
  unfold Numbered at hn
  cases hm with
  | noPort hp =>
    obtain ⟨q, hq, -⟩ := h.up
    exact absurd (hp.symm.trans hq) nofun
  | @restart p hp hs =>
    rw [← (startState_of_up h.up hp).1, hs] at hn
    exact ⟨(hseen p hp).congr (hseen p hp).up rfl rfl rfl rfl rfl rfl, ⟨hn, nofun⟩, nofun⟩
  | @ready p hp hs =>
    rw [← (startState_of_up h.up hp).1, hs] at hn
    refine ⟨(hseen p hp).congr (hseen p hp).up rfl rfl rfl rfl rfl rfl, ?_, nofun⟩
    show incSeqno c.ecp.tx.seqno = seqOf c.trace.built
    rw [hn.1, hn.2 rfl]
    exact incSeqno_zero
  | @request p hp hs =>
    rw [← (startState_of_up h.up hp).1, hs] at hn
    exact ⟨(hseen p hp).congr (hseen p hp).up rfl rfl rfl rfl rfl rfl, hn, nofun⟩
  | @build p hp hs hdata =>
    rw [← (startState_of_up h.up hp).1, hs] at hn
    obtain ⟨hbuild, hnumber⟩ := ledger_build (hseen p hp) hn hdata
    exact ⟨hbuild.congr hbuild.up rfl rfl rfl rfl rfl rfl, hnumber, nofun⟩
  | @idle p hp hs hdata =>
    rw [← (startState_of_up h.up hp).1, hs] at hn
    have hnumber : ∀ acted, Numbered acted (c.seen p) := by
      intro acted
      unfold Numbered
      rw [show (c.seen p).ecp.tx.state = _ from hs]
      exact hn
    exact ⟨hseen p hp, hnumber false, fun _ => hnumber true⟩
  | @acked p hp hs hack =>
    rw [← (startState_of_up h.up hp).1, hs] at hn
    refine ⟨(hseen p hp).congr (hseen p hp).up rfl rfl rfl rfl rfl rfl, ?_, nofun⟩
    show incSeqno c.ecp.tx.seqno = seqOf c.trace.built
    rw [hn.2.1, incSeqno_seqOf, Nat.sub_add_cancel hn.1]
  | @giveUp p hp hs hack hretries =>
    rw [← (startState_of_up h.up hp).1, hs] at hn
    exact ⟨(hseen p hp).congr (hseen p hp).up rfl rfl rfl rfl rfl rfl, ⟨hn.1, hn.2.1⟩, nofun⟩
  | @wait p hp hs hack hretries =>
    rw [← (startState_of_up h.up hp).1, hs] at hn
    have hnumber : ∀ acted, Numbered acted (c.seen p) := by
      intro acted
      unfold Numbered
      rw [show (c.seen p).ecp.tx.state = _ from hs]
      exact hn
    exact ⟨hseen p hp, hnumber false, fun _ => hnumber true⟩
  | @counted p hp hs =>
    rw [← (startState_of_up h.up hp).1, hs] at hn
    refine ⟨(hseen p hp).congr (hseen p hp).up rfl rfl rfl rfl rfl rfl, ?_, nofun⟩
    show incSeqno c.ecp.tx.seqno = seqOf c.trace.built
    rw [hn.2, incSeqno_seqOf, Nat.sub_add_cancel hn.1]

theorem ecp22TxRunSm_ledger (h : Ledger since c)
    (hn : Numbered true c) (hrun : ecp22TxRunSm c = .ok c') :
    Ledger since c' ∧ Numbered true c' := by
  refine txRun_rule (P := fun d => Ledger since d ∧ Numbered true d)
    (I := fun d => Ledger since d ∧ Numbered false d)
    (J := fun d => Ledger since d ∧ Numbered true d)
    (Q := fun d => Ledger since d ∧ Numbered true d) ?_ ?_ ?_ ?_ ⟨h, hn⟩ hrun
  · rintro d e b ⟨hd, hdn⟩ hm
    obtain ⟨he, hen, -⟩ := ledger_move hd hdn hm
    exact ⟨he, hen⟩
  · rintro d ⟨hd, hdn⟩
    exact ledger_act hd hdn
  · rintro d e ⟨hd, hdn⟩ hm
    obtain ⟨he, hen, -⟩ := ledger_move hd hdn hm
    exact ⟨he, hen⟩
  · rintro d e ⟨hd, hdn⟩ hm
    obtain ⟨he, -, hen⟩ := ledger_move hd hdn hm
    exact ⟨he, hen rfl⟩

theorem ecp22TxRunSm_trace (hrun : ecp22TxRunSm c = .ok c') :
    c'.trace.queued = c.trace.queued ∧ c'.trace.acked = c.trace.acked := by
  let I : Ecp22Ctx → Prop := fun d =>
    d.trace.queued = c.trace.queued ∧ d.trace.acked = c.trace.acked
  have hmove : ∀ d e b, I d → TxMove d e b → I e := by
    intro d e b hd hm
    cases hm with
    | build hp hs hdata =>
      refine ⟨Eq.trans ?_ hd.1, Eq.trans ?_ hd.2⟩
      all_goals
        unfold ecp22BuildEcpdu
        split <;> rfl
    | _ => exact hd
  have hact : ∀ d, I d → I (ecp22TxAction d) := by
    intro d hd
    unfold ecp22TxAction
    split
    all_goals exact hd
  exact txRun_preserves hact hmove ⟨rfl, rfl⟩ hrun

theorem TxMove.built_le {b : Bool} (h : TxMove c d b) :
    c.trace.built ≤ d.trace.built := by
  cases h with
  | build hp hs hdata =>
    show _ ≤ (ecp22BuildEcpdu _).trace.built
    unfold ecp22BuildEcpdu
    split
    · exact Nat.le_refl _
    · exact Nat.le_succ _
  | _ => exact Nat.le_refl _

theorem ecp22TxRunSm_built (hrun : ecp22TxRunSm c = .ok c') :
    c.trace.built ≤ c'.trace.built := by
  let I : Ecp22Ctx → Prop := fun d => c.trace.built ≤ d.trace.built
  have hmove : ∀ d e b, I d → TxMove d e b → I e := fun d e b hd hm =>
    Nat.le_trans hd hm.built_le
  have hact : ∀ d, I d → I (ecp22TxAction d) := by
    intro d hd
    unfold ecp22TxAction
    split
    all_goals exact hd
  exact txRun_preserves hact hmove (Nat.le_refl _) hrun

end Lldpad.Qbg
