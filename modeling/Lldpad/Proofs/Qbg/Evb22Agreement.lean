import Lldpad.Proofs.Qbg.Evb22Fields

/-!
# `Lldpad.Proofs.Qbg.Evb22Agreement`: when two ends agree on the EVB values

An end answers with the maximum of its policy and of what it received, which may be its own
older value that the peer sent back. `LinkInv` says that nothing of that kind is on the link.
It holds as long as no end is set to less than what is still about (`Keeps`).

* `LinkInv.step`: what one event preserves.
* `agreed_of_keeps`: in every run of such events, two ends that have heard each other use the
  maximum of the two policies, decide the same about group identifiers, and arm the timers that
  the formulas say.
* `not_agreed`: an end that lowers its policy, and an exponent that does not fit.
-/

namespace Lldpad.Qbg.Evb22

open Lldpad.Lib

/-! ### What the ends should agree on -/

namespace Evb22Link

/-- The maximum of the two policies. -/
def maxPolicy (l : Evb22Link) (p : Param) : Nat :=
  max (p.value (l.side .one).ed.policy).toNat (p.value (l.side .other).ed.policy).toNat

/-- A TLV that an end has taken, or that is on the way to one. -/
def Held (l : Evb22Link) (t : Evb22Tlv) : Prop :=
  ∃ d, t = (l.side d).ed.last ∨ ∃ m ∈ l.wire d, t = m.tlv

/-- Each end has taken a TLV that the other built after its last setting. -/
def Quiet (l : Evb22Link) : Prop := ∀ d, (l.side d).heard = true

/-- The products of the timers fit an `int`. -/
structure TimersFit (l : Evb22Link) : Prop where
  retries : (1 + 2 * l.maxPolicy .retries) * 2 ^ l.maxPolicy .rte * 10 < 2 ^ 31
  rwd : 2 ^ l.maxPolicy .rwd * 10 < 2 ^ 31
  rka : 2 ^ l.maxPolicy .rka * 10 < 2 ^ 31

/-- The values that an end has given to ECP22 and VDP22. -/
structure Given (s : Evb22Side) (v : Param → Nat) : Prop where
  ecpRetry : s.ecp22.maxRetry.toNat = v .retries
  ecpRte : s.ecp22.maxRte.toNat = v .rte
  vdpRetry : s.vdp22.maxRetry.toNat = v .retries
  vdpRte : s.vdp22.maxRte.toNat = v .rte
  vdpRwd : s.vdp22.maxRwd.toNat = v .rwd
  vdpRka : s.vdp22.maxRka.toNat = v .rka

/-- The timers of an end are those of the formulas, in microseconds. -/
structure TimersExact (s : Evb22Side) (v : Param → Nat) : Prop where
  ecpAck : ecp22TxStartAcktimer s.ecp22 = (2 ^ v .rte * 10 : Nat)
  stationAck : vdp22stStartAcktimer s.vdp22
    = (((1 + 2 * v .retries) * 2 ^ v .rte * 10 + 2 ^ v .rwd * 10) * 3 / 2 : Nat)
  stationKa : vdp22stStartKatimer s.vdp22 = (2 ^ v .rka * 10 : Nat)
  bridgeRes : vdp22brStartRestimer s.vdp22 = (2 ^ v .rwd * 10 : Nat)
  bridgeKa : vdp22brStartKatimer s.vdp22
    = (((1 + 2 * v .retries) * 2 ^ v .rte * 10 + 2 ^ v .rka * 10) * 3 / 2 : Nat)

/-- Both ends use the maximum of the two policies, decide the same about group identifiers and
arm the timers that the formulas say; a bridge waits for longer than a station is silent. -/
structure Agreed (l : Evb22Link) : Prop where
  given : ∀ d, Given (l.side d) l.maxPolicy
  gpid : (l.side .one).vdp22.gpid = (l.side .other).vdp22.gpid
  timers : ∀ d, TimersExact (l.side d) l.maxPolicy
  keepAlive : ∀ d, vdp22stStartKatimer (l.side d).vdp22 < vdp22brStartKatimer (l.side d.peer).vdp22

/-- Every end is set so that the products fit, and to nothing below what is still about: a value
that one of the ends has taken, or that is on the way to one. -/
structure Keeps (l : Evb22Link) (e : Evb22Event) : Prop where
  fits : l.TimersFit
  settings : ∀ d p value, e = .set d p value → value ≤ p.limit → ∀ t, l.Held t →
    (p.value t).toNat
      ≤ max (value % (p.limit + 1)).toNat (p.value (l.side d.peer).ed.policy).toNat

end Evb22Link

open Evb22Link

/-! ### The two ends -/

theorem End.peer_peer (d : End) : d.peer.peer = d := by cases d <;> rfl

theorem End.peer_ne (d : End) : d.peer ≠ d := by cases d <;> decide

theorem End.eq_or (d d' : End) : d' = d ∨ d' = d.peer := by cases d <;> cases d' <;> simp [End.peer]

theorem maxPolicy_eq (l : Evb22Link) (d : End) (p : Param) :
    l.maxPolicy p
      = max (p.value (l.side d).ed.policy).toNat (p.value (l.side d.peer).ed.policy).toNat := by
  cases d
  · rfl
  · exact Nat.max_comm _ _

theorem policy_le_maxPolicy (l : Evb22Link) (d : End) (p : Param) :
    (p.value (l.side d).ed.policy).toNat ≤ l.maxPolicy p := by
  rw [maxPolicy_eq l d p]
  exact Nat.le_max_left _ _

/-! ### The invariant -/

/-- A TLV shows the policy that its sender has now. -/
structure Shows (t : Evb22Tlv) (ed : Evb22Data) : Prop where
  values : ∀ p : Param, (p.value ed.policy).toNat ≤ (p.value t).toNat
  station : isStation ed → evbExSgid t.stationS = evbExSgid ed.policy.stationS
  bridge : ¬isStation ed → evbExBgid t.bridgeS = evbExBgid ed.policy.bridgeS

/-- A TLV that an end has taken or that is on the way to it: it is not above the two policies,
and if it is recent it shows the policy of the peer. Two ends of the same kind never set the
group bit of the other kind. -/
structure Good (l : Evb22Link) (d : End) (t : Evb22Tlv) (recent : Bool) : Prop where
  bound : ∀ p : Param, (p.value t).toNat ≤ l.maxPolicy p
  stations : (∀ d, isStation (l.side d).ed) → evbExBgid t.bridgeS = 0
  bridges : (∀ d, ¬isStation (l.side d).ed) → evbExSgid t.stationS = 0
  shows : recent = true → Shows t (l.side d.peer).ed

/-- The group decision of an end. -/
def gpidOf (ed : Evb22Data) : Bool :=
  if isStation ed then evbExBgid ed.last.bridgeS ≠ 0 && evbExSgid ed.policy.stationS ≠ 0
  else evbExBgid ed.policy.bridgeS ≠ 0 && evbExSgid ed.last.stationS ≠ 0

/-- What ECP22 and VDP22 were told is what the end would tell them now. -/
structure Told (s : Evb22Side) : Prop where
  given : Given s fun p => larger p s.ed
  gpid : s.vdp22.gpid = gpidOf s.ed

/-- Every TLV on the link is good, and an end whose last setting has got through has told ECP22
and VDP22 about it. -/
structure LinkInv (l : Evb22Link) : Prop where
  last : ∀ d, Good l d (l.side d).ed.last (l.side d).heard
  msgs : ∀ d, ∀ m ∈ l.wire d, Good l d m.tlv m.recent
  told : ∀ d, (l.side d.peer).heard = true ∨ (∃ m ∈ l.wire d.peer, m.recent = true) →
    (l.side d).heard = true → Told (l.side d)

theorem told_update (s : Evb22Side) : Told (evb22UpdateTlv s) := by
  have hed : (evb22UpdateTlv s).ed = { s.ed with out := (updatedTlv s.ed).out } :=
    updatedTlv_eq s.ed
  have hlarger : ∀ p, larger p (evb22UpdateTlv s).ed = larger p s.ed := by
    intro p
    rw [hed]
    rfl
  refine ⟨?_, ?_⟩
  · simp only [hlarger]
    exact ⟨value_updatedTlv s.ed .retries, value_updatedTlv s.ed .rte,
      value_updatedTlv s.ed .retries, value_updatedTlv s.ed .rte, value_updatedTlv s.ed .rwd,
      value_updatedTlv s.ed .rka⟩
  · have hgpid : gpidOf (evb22UpdateTlv s).ed = gpidOf s.ed := by
      rw [hed]
      rfl
    rw [hgpid]
    show (evbExBgid (updatedTlv s.ed).out.bridgeS ≠ 0 &&
      evbExSgid (updatedTlv s.ed).out.stationS ≠ 0 : Bool) = _
    by_cases hs : isStation s.ed
    · obtain ⟨hbridge, hstation⟩ := updatedTlv_station hs
      rw [hbridge, hstation, gpidOf, if_pos hs]
    · obtain ⟨hstation, hbridge⟩ := updatedTlv_bridge hs
      rw [hbridge, hstation, gpidOf, if_neg hs]

/-! ### What a policy says -/

/-- Two policies that say the same to the peer. -/
structure SamePolicy (ed ed' : Evb22Data) : Prop where
  values : ∀ p : Param, p.value ed'.policy = p.value ed.policy
  station : isStation ed' ↔ isStation ed
  sgid : evbExSgid ed'.policy.stationS = evbExSgid ed.policy.stationS
  bgid : evbExBgid ed'.policy.bridgeS = evbExBgid ed.policy.bridgeS

theorem SamePolicy.refl (ed : Evb22Data) : SamePolicy ed ed :=
  ⟨fun _ => rfl, Iff.rfl, rfl, rfl⟩

variable {s : Evb22Side} {ev : Evb22Event} {ed : Evb22Data}

theorem samePolicy_of_eq {ed' : Evb22Data} (h : ed'.policy = ed.policy) : SamePolicy ed ed' := by
  refine ⟨fun p => by rw [h], ?_, by rw [h], by rw [h]⟩
  unfold isStation
  rw [h]

theorem samePolicy_rrcap (ed : Evb22Data) (v : UInt8) : SamePolicy ed (setRrcap ed v) :=
  ⟨fun p => by cases p <;> rfl, Iff.rfl, rfl, exBgid_rrcap ..⟩

theorem samePolicy_txmit (ed : Evb22Data) (value : Bool) : SamePolicy ed (setTxmit ed value) :=
  samePolicy_of_eq rfl

theorem samePolicy_mibdelete (s : Evb22Side) : SamePolicy s.ed (evb22Mibdelete s).ed :=
  samePolicy_of_eq rfl

theorem samePolicy_rrreq (ed : Evb22Data) (v : UInt8) : SamePolicy ed (setRrreq ed v) :=
  ⟨fun p => by cases p <;> rfl, Iff.rfl, exSgid_rrreq .., rfl⟩

variable {l l' : Evb22Link} {d e : End} {t : Evb22Tlv} {recent : Bool}

theorem maxPolicy_same (h : ∀ d, SamePolicy (l.side d).ed (l'.side d).ed) (p : Param) :
    l'.maxPolicy p = l.maxPolicy p := by
  rw [maxPolicy, maxPolicy, (h .one).values, (h .other).values]

theorem Good.same (hg : Good l d t recent)
    (h : ∀ d, SamePolicy (l.side d).ed (l'.side d).ed) : Good l' d t recent where
  bound p := by
    rw [maxPolicy_same h]
    exact hg.bound p
  stations hs := hg.stations fun d => (h d).station.mp (hs d)
  bridges hb := hg.bridges fun d hd => hb d ((h d).station.mpr hd)
  shows hr := by
    have hshows := hg.shows hr
    have hsame := h d.peer
    refine ⟨fun p => ?_, fun hs => ?_, fun hb => ?_⟩
    · rw [hsame.values]
      exact hshows.values p
    · rw [hsame.sgid]
      exact hshows.station (hsame.station.mp hs)
    · rw [hsame.bgid]
      exact hshows.bridge fun hs => hb (hsame.station.mpr hs)

theorem good_empty (l : Evb22Link) (d : End) : Good l d {} false := by
  refine ⟨fun p => ?_, fun _ => by decide, fun _ => by decide, fun h => absurd h (by decide)⟩
  have hzero : (p.value {}).toNat = 0 := by cases p <;> decide
  rw [hzero]
  exact Nat.zero_le _

theorem good_sent (h : LinkInv l) (d : End) :
    Good l d.peer (updatedTlv (l.side d).ed).out true := by
  have hlast := h.last d
  refine ⟨fun p => ?_, fun hs => ?_, fun hb => ?_, fun _ =>
    ⟨fun p => ?_, fun hs => ?_, fun hb => ?_⟩⟩
  · rw [value_updatedTlv]
    exact Nat.max_le.mpr ⟨policy_le_maxPolicy l d p, hlast.bound p⟩
  · rw [(updatedTlv_station (hs d)).1]
    exact hlast.stations hs
  · rw [(updatedTlv_bridge (hb d)).1]
    exact hlast.bridges hb
  · rw [End.peer_peer, value_updatedTlv]
    exact Nat.le_max_left _ _
  · rw [End.peer_peer] at hs ⊢
    exact (updatedTlv_station hs).2
  · rw [End.peer_peer] at hb ⊢
    exact (updatedTlv_bridge hb).2

theorem Told.same {s' : Evb22Side} (ht : Told s) (h : SamePolicy s.ed s'.ed)
    (hlast : s'.ed.last = s.ed.last) (hecp : s'.ecp22 = s.ecp22) (hvdp : s'.vdp22 = s.vdp22) :
    Told s' := by
  have hlarger : ∀ p, larger p s'.ed = larger p s.ed := by
    intro p
    rw [larger, larger, h.values, hlast]
  refine ⟨?_, ?_⟩
  · simp only [hlarger]
    have hg := ht.given
    refine ⟨?_, ?_, ?_, ?_, ?_, ?_⟩
    · rw [hecp]
      exact hg.ecpRetry
    · rw [hecp]
      exact hg.ecpRte
    · rw [hvdp]
      exact hg.vdpRetry
    · rw [hvdp]
      exact hg.vdpRte
    · rw [hvdp]
      exact hg.vdpRwd
    · rw [hvdp]
      exact hg.vdpRka
  · rw [hvdp, ht.gpid, gpidOf, gpidOf, hlast, h.sgid, h.bgid]
    exact if_congr h.station.symm rfl rfl

/-! ### One event -/

@[simp] theorem put_side_self (l : Evb22Link) (d : End) (s : Evb22Side) :
    (l.put d s).side d = s := Function.update_self ..

@[simp] theorem put_side_peer (l : Evb22Link) (d : End) (s : Evb22Side) :
    (l.put d s).side d.peer = l.side d.peer := Function.update_of_ne (End.peer_ne d) ..

@[simp] theorem change_side_self (l : Evb22Link) (d : End) (ed : Evb22Data) :
    (l.change d ed).side d = { l.side d with ed := ed } :=
  (Function.update_of_ne (End.peer_ne d).symm ..).trans (Function.update_self ..)

@[simp] theorem change_side_peer (l : Evb22Link) (d : End) (ed : Evb22Data) :
    (l.change d ed).side d.peer = { l.side d.peer with heard := false } := Function.update_self ..

@[simp] theorem change_wire_self (l : Evb22Link) (d : End) (ed : Evb22Data) :
    (l.change d ed).wire d = l.wire d := Function.update_of_ne (End.peer_ne d).symm ..

@[simp] theorem change_wire_peer (l : Evb22Link) (d : End) (ed : Evb22Data) :
    (l.change d ed).wire d.peer = (l.wire d.peer).map fun m => { m with recent := false } :=
  Function.update_self ..

theorem End.forall_iff (d : End) (P : End → Prop) : (∀ e, P e) ↔ P d ∧ P d.peer := by
  refine ⟨fun h => ⟨h d, h d.peer⟩, fun h e => ?_⟩
  rcases End.eq_or d e with rfl | rfl
  · exact h.1
  · exact h.2

/-- A setting of one end. What it heard of the peer still holds, and the peer has to hear of the
setting first. -/
theorem LinkInv.change (h : LinkInv l) (d : End)
    (hlast : ed.last = (l.side d).ed.last) (hmode : isStation ed ↔ isStation (l.side d).ed)
    (hbound : ∀ (p : Param) t, l.Held t → (p.value t).toNat
      ≤ max (p.value ed.policy).toNat (p.value (l.side d.peer).ed.policy).toNat) :
    LinkInv (l.change d ed) := by
  have hmodes : ∀ e, isStation ((l.change d ed).side e).ed ↔ isStation (l.side e).ed := by
    rw [End.forall_iff d, change_side_self, change_side_peer]
    exact ⟨hmode, Iff.rfl⟩
  have hgood : ∀ {e t r r'}, Good l e t r → l.Held t →
      (r' = true → Shows t ((l.change d ed).side e.peer).ed) → Good (l.change d ed) e t r' := by
    intro e t r r' hg ht hshows
    refine ⟨fun p => ?_, fun hs => ?_, fun hb => ?_, hshows⟩
    · rw [maxPolicy_eq _ d, change_side_self, change_side_peer]
      exact hbound p t ht
    · exact hg.stations fun e' => (hmodes e').mp (hs e')
    · exact hg.bridges fun e' he' => hb e' ((hmodes e').mpr he')
  refine ⟨?_, ?_, ?_⟩
  · rw [End.forall_iff d, change_side_self, change_side_peer]
    refine ⟨?_, ?_⟩
    · rw [hlast]
      refine hgood (h.last d) ⟨d, .inl rfl⟩ fun hr => ?_
      rw [change_side_peer]
      exact ((h.last d).shows hr)
    · exact hgood (h.last d.peer) ⟨d.peer, .inl rfl⟩ fun hr => absurd hr (by simp)
  · rw [End.forall_iff d, change_wire_self, change_wire_peer]
    refine ⟨fun m hm => ?_, fun m hm => ?_⟩
    · refine hgood (h.msgs d m hm) ⟨d, .inr ⟨m, hm, rfl⟩⟩ fun hr => ?_
      rw [change_side_peer]
      exact (h.msgs d m hm).shows hr
    · obtain ⟨m₀, hm₀, rfl⟩ := List.mem_map.mp hm
      exact hgood (h.msgs d.peer m₀ hm₀) ⟨d.peer, .inr ⟨m₀, hm₀, rfl⟩⟩ fun hr => absurd hr (by simp)
  · rw [End.forall_iff d, change_side_self, change_side_peer, End.peer_peer, change_side_self,
      change_wire_peer, change_wire_self]
    refine ⟨?_, fun _ hheard => absurd hheard (by simp)⟩
    -- nothing recent of this end is left
    rintro (hheard | ⟨m, hm, hr⟩)
    · exact absurd hheard (by simp)
    · obtain ⟨m₀, -, rfl⟩ := List.mem_map.mp hm
      exact absurd hr (by simp)

/-- An event that changes no policy: what the ends have taken and what is on the way stays good,
and the end that it is about has told what there is to tell. -/
theorem LinkInv.keep (h : LinkInv l) (d : End) {w : List Evb22Msg}
    (hsame : SamePolicy (l.side d).ed s.ed)
    (hlast : Good l d s.ed.last s.heard) (hw : ∀ m ∈ w, m ∈ l.wire d)
    (hheard : s.heard = true → (l.side d).heard = true ∨ ∃ m ∈ l.wire d, m.recent = true)
    (htold : (l.side d.peer).heard = true ∨ (∃ m ∈ l.wire d.peer, m.recent = true) →
      s.heard = true → Told s) : LinkInv ((l.put d s).setWire d w) := by
  have hpol : ∀ e, SamePolicy (l.side e).ed (((l.put d s).setWire d w).side e).ed := by
    rw [End.forall_iff d]
    refine ⟨?_, ?_⟩
    · show SamePolicy _ ((l.put d s).side d).ed
      rw [put_side_self]
      exact hsame
    · show SamePolicy _ ((l.put d s).side d.peer).ed
      rw [put_side_peer]
      exact .refl _
  have hwire : ((l.put d s).setWire d w).wire d = w := Function.update_self ..
  have hwirePeer : ((l.put d s).setWire d w).wire d.peer = l.wire d.peer :=
    Function.update_of_ne (End.peer_ne d) ..
  have hside : ((l.put d s).setWire d w).side d = s := put_side_self l d s
  have hsidePeer : ((l.put d s).setWire d w).side d.peer = l.side d.peer := put_side_peer l d s
  refine ⟨?_, ?_, ?_⟩
  · rw [End.forall_iff d, hside, hsidePeer]
    exact ⟨hlast.same hpol, (h.last d.peer).same hpol⟩
  · rw [End.forall_iff d, hwire, hwirePeer]
    exact ⟨fun m hm => (h.msgs d m (hw m hm)).same hpol,
      fun m hm => (h.msgs d.peer m hm).same hpol⟩
  · rw [End.forall_iff d, End.peer_peer, hside, hsidePeer, hwire, hwirePeer]
    refine ⟨htold, fun hrecent hpeer => h.told d.peer ?_ hpeer⟩
    rw [End.peer_peer]
    rcases hrecent with hr | ⟨m, hm, hr⟩
    · exact hheard hr
    · exact .inr ⟨m, hw m hm, hr⟩

theorem setWire_self (l : Evb22Link) (d : End) (s : Evb22Side) :
    (l.put d s).setWire d (l.wire d) = l.put d s := by
  have hwire : Function.update l.wire d (l.wire d) = l.wire := Function.update_eq_self ..
  exact congrArg (Evb22Link.mk _) hwire

theorem LinkInv.putSame (h : LinkInv l) (d : End)
    (hsame : SamePolicy (l.side d).ed ed) (hlast : ed.last = (l.side d).ed.last) :
    LinkInv (l.put d { l.side d with ed := ed }) := by
  have hgood := h.last d
  rw [← hlast] at hgood
  have hkeep := h.keep (s := { l.side d with ed := ed }) d hsame hgood (fun _ hm => hm)
    (fun hr => .inl hr) fun hpeer hr => (h.told d hpeer hr).same hsame hlast rfl rfl
  rwa [setWire_self] at hkeep

theorem LinkInv.append (h : LinkInv l) (d : End) {m : Evb22Msg}
    (hm : Good l d m.tlv m.recent) (htold : Told (l.side d.peer)) :
    LinkInv (l.setWire d (l.wire d ++ [m])) := by
  have hwire : (l.setWire d (l.wire d ++ [m])).wire d = l.wire d ++ [m] := Function.update_self ..
  have hwirePeer : (l.setWire d (l.wire d ++ [m])).wire d.peer = l.wire d.peer :=
    Function.update_of_ne (End.peer_ne d) ..
  have hpol : ∀ e, SamePolicy (l.side e).ed ((l.setWire d (l.wire d ++ [m])).side e).ed :=
    fun e => .refl _
  refine ⟨fun e => (h.last e).same hpol, ?_, ?_⟩
  · rw [End.forall_iff d, hwire, hwirePeer]
    refine ⟨fun m' hm' => ?_, fun m' hm' => (h.msgs d.peer m' hm').same hpol⟩
    rcases List.mem_append.mp hm' with hold | hnew
    · exact (h.msgs d m' hold).same hpol
    · rw [List.mem_singleton.mp hnew]
      exact hm.same hpol
  · rw [End.forall_iff d, hwirePeer]
    exact ⟨h.told d, fun _ _ => htold⟩

theorem LinkInv.lose (h : LinkInv l) (d : End) (i : Nat) :
    LinkInv (l.setWire d ((l.wire d).eraseIdx i)) := by
  have hput : l.put d (l.side d) = l := by
    have hside : Function.update l.side d (l.side d) = l.side := Function.update_eq_self ..
    exact congrArg (fun side => Evb22Link.mk side l.wire) hside
  have hkeep := h.keep (w := (l.wire d).eraseIdx i) d (.refl _) (h.last d)
    (fun m hm => List.mem_of_mem_eraseIdx hm)
    (fun hr => .inl hr) (h.told d)
  rwa [hput] at hkeep

theorem LinkInv.deliver (h : LinkInv l) (d : End) {i : Nat} {m : Evb22Msg}
    (hm : (l.wire d)[i]? = some m) :
    LinkInv ((l.put d (evb22Rchange (l.side d) m)).setWire d ((l.wire d).eraseIdx i)) := by
  have hmem := List.mem_of_getElem? hm
  by_cases htx : (l.side d).ed.txmit
  · have hs : evb22Rchange (l.side d) m = evb22UpdateTlv { l.side d with
        ed := { (l.side d).ed with last := m.tlv }, heard := m.recent } := if_pos htx
    rw [hs]
    refine h.keep d (samePolicy_of_eq ?_) ?_ (fun m' hm' => List.mem_of_mem_eraseIdx hm')
      (fun hr => .inr ⟨m, hmem, hr⟩) fun _ _ => told_update _
    · exact updatedTlv_policy _
    · show Good l d (updatedTlv { (l.side d).ed with last := m.tlv }).last m.recent
      rw [updatedTlv_last]
      exact h.msgs d m hmem
  · have hs : evb22Rchange (l.side d) m = l.side d := if_neg htx
    rw [hs]
    exact h.keep d (.refl _) (h.last d) (fun m' hm' => List.mem_of_mem_eraseIdx hm')
      (fun hr => .inl hr) (h.told d)

theorem LinkInv.send (h : LinkInv l) (d : End) :
    LinkInv ((l.put d (evb22UpdateTlv (l.side d))).setWire d.peer (l.wire d.peer ++
      [{ tlv := (evb22UpdateTlv (l.side d)).ed.out, recent := true }])) := by
  have hsame : SamePolicy (l.side d).ed (evb22UpdateTlv (l.side d)).ed :=
    samePolicy_of_eq (updatedTlv_policy _)
  have hlast : Good l d (evb22UpdateTlv (l.side d)).ed.last (l.side d).heard := by
    show Good l d (updatedTlv (l.side d).ed).last _
    rw [updatedTlv_last]
    exact h.last d
  have hput : LinkInv (l.put d (evb22UpdateTlv (l.side d))) := by
    have hkeep := h.keep d hsame hlast (fun _ hm => hm) (fun hr => .inl hr)
      fun _ _ => told_update _
    rwa [setWire_self] at hkeep
  refine hput.append d.peer ?_ ?_
  · refine (good_sent h d).same ?_
    rw [End.forall_iff d, put_side_self, put_side_peer]
    exact ⟨hsame, .refl _⟩
  · rw [End.peer_peer, put_side_self]
    exact told_update _

theorem LinkInv.ageOut (h : LinkInv l) (d : End) :
    LinkInv (l.put d (evb22Mibdelete (l.side d))) := by
  have hkeep := h.keep (s := evb22Mibdelete (l.side d)) d (samePolicy_mibdelete _) (good_empty l d)
    (fun _ hm => hm) (fun hr => Bool.noConfusion hr) fun _ hr => Bool.noConfusion hr
  rwa [setWire_self] at hkeep

/-- What one event preserves. -/
theorem LinkInv.step (h : LinkInv l) (hk : l.Keeps ev) : LinkInv (l.step ev) := by
  have hheld : ∀ (p : Param) t, l.Held t → (p.value t).toNat ≤ l.maxPolicy p := by
    rintro p t ⟨e, rfl | ⟨m, hm, rfl⟩⟩
    · exact (h.last e).bound p
    · exact (h.msgs e m hm).bound p
  cases ev with
  | set d p value =>
    by_cases hlimit : value > p.limit
    · have hstep : l.step (.set d p value) = l := by
        simp only [Evb22Link.step, scan31bit, if_pos hlimit]
      rw [hstep]
      exact h
    · have hstep : l.step (.set d p value)
          = l.change d (p.set (l.side d).ed (UInt8.ofNat (value % 256).toNat)) := by
        simp only [Evb22Link.step, scan31bit, if_neg hlimit]
      rw [hstep]
      refine h.change d (last_set ..) (isStation_set ..) fun q t ht => ?_
      by_cases hq : q = p
      · rw [hq, toNat_value_set]
        exact hk.settings d p value rfl (Int.not_lt.mp hlimit) t ht
      · rw [value_set_of_ne hq, ← maxPolicy_eq]
        exact hheld q t ht
  | gpid d value =>
    obtain ⟨hlast, hrRte, hmode, hrka⟩ := setGpid_policy (l.side d).ed (boolValue value)
    refine h.change d hlast ?_ fun q t ht => ?_
    · unfold isStation
      rw [hmode]
    · have hq : q.value (setGpid (l.side d).ed (boolValue value)).policy
          = q.value (l.side d).ed.policy := by
        cases q <;> simp only [Param.value, hrRte, hmode, hrka]
      rw [hq, ← maxPolicy_eq]
      exact hheld q t ht
  | rrcap d value => exact h.putSame d (samePolicy_rrcap ..) rfl
  | rrreq d value => exact h.putSame d (samePolicy_rrreq ..) rfl
  | txmit d value => exact h.putSame d (samePolicy_txmit ..) rfl
  | send d =>
    by_cases htx : (l.side d).ed.txmit
    · rw [show l.step (.send d) = _ from if_pos htx]
      exact h.send d
    · rw [show l.step (.send d) = _ from if_neg htx]
      exact h
  | deliver d i =>
    cases hm : (l.wire d)[i]? with
    | none =>
      simp only [Evb22Link.step, hm]
      exact h
    | some m =>
      simp only [Evb22Link.step, hm]
      exact h.deliver d hm
  | lose d i => exact h.lose d i
  | ageOut d => exact h.ageOut d

theorem linkInv_of_init (h : l.Init) : LinkInv l := by
  obtain ⟨hside, hwire⟩ := h
  refine ⟨fun d => ?_, fun d m hm => ?_, fun d _ hd => ?_⟩
  · obtain ⟨conf, hed, hheard⟩ := hside d
    rw [hed, hheard]
    exact good_empty l d
  · rw [hwire d] at hm
    exact absurd hm List.not_mem_nil
  · obtain ⟨-, -, hheard⟩ := hside d
    rw [hheard] at hd
    exact Bool.noConfusion hd

/-! ### Agreement -/

theorem maxPolicy_put (h : SamePolicy (l.side d).ed s.ed) (p : Param) :
    (l.put d s).maxPolicy p = l.maxPolicy p := by
  refine maxPolicy_same ?_ p
  rw [End.forall_iff d, put_side_self, put_side_peer]
  exact ⟨h, .refl _⟩

theorem not_quiet_change (l : Evb22Link) (d : End) (ed : Evb22Data) : ¬(l.change d ed).Quiet := by
  intro h
  have hpeer := h d.peer
  rw [change_side_peer] at hpeer
  exact Bool.noConfusion hpeer

theorem maxPolicy_of_quiet (h : (l.step ev).Quiet) (p : Param) :
    (l.step ev).maxPolicy p = l.maxPolicy p := by
  cases ev with
  | set d q value =>
    unfold Evb22Link.step at h ⊢
    dsimp only at h ⊢
    split at h
    · exact absurd h (not_quiet_change l d _)
    · rfl
  | gpid d value => exact absurd h (not_quiet_change l d _)
  | rrcap d value => exact maxPolicy_put (samePolicy_rrcap ..) p
  | rrreq d value => exact maxPolicy_put (samePolicy_rrreq ..) p
  | txmit d value =>
    exact maxPolicy_put (s := { l.side d with ed := setTxmit (l.side d).ed value })
      (samePolicy_txmit (l.side d).ed value) p
  | send d =>
    unfold Evb22Link.step
    dsimp only
    split
    · exact maxPolicy_put (samePolicy_of_eq (updatedTlv_policy _)) p
    · rfl
  | deliver d i =>
    unfold Evb22Link.step
    dsimp only
    split
    · refine maxPolicy_put (samePolicy_of_eq ?_) p
      unfold evb22Rchange
      split
      · exact updatedTlv_policy _
      · rfl
    · rfl
  | lose d i => rfl
  | ageOut d => exact maxPolicy_put (samePolicy_mibdelete (l.side d)) p

theorem timersExact_of_given (hg : Given s l.maxPolicy) (hfit : l.TimersFit) :
    TimersExact s l.maxPolicy := by
  have hretries := hfit.retries
  have hrwd := hfit.rwd
  have hrka := hfit.rka
  have hone : 2 ^ l.maxPolicy .rte ≤ (1 + 2 * l.maxPolicy .retries) * 2 ^ l.maxPolicy .rte :=
    Nat.le_mul_of_pos_left _ (by omega)
  have hrte : 2 ^ l.maxPolicy .rte * 10 < 2 ^ 31 := by omega
  rw [← hg.vdpRetry, ← hg.vdpRte] at hretries
  refine ⟨?_, ?_, ?_, ?_, ?_⟩
  · rw [← hg.ecpRte] at hrte ⊢
    exact ecp22TxStartAcktimer_eq hrte
  · rw [← hg.vdpRwd] at hrwd
    rw [← hg.vdpRwd, ← hg.vdpRetry, ← hg.vdpRte]
    exact vdp22Timeout_eq hretries hrwd
  · rw [← hg.vdpRka] at hrka ⊢
    exact registeredU64_shift1 hrka
  · rw [← hg.vdpRwd] at hrwd ⊢
    exact registeredU64_shift1 hrwd
  · rw [← hg.vdpRka] at hrka
    rw [← hg.vdpRka, ← hg.vdpRetry, ← hg.vdpRte]
    exact vdp22Timeout_eq hretries hrka

theorem LinkInv.agreed (h : LinkInv l) (hq : l.Quiet) (hfit : l.TimersFit) : l.Agreed := by
  have hshows : ∀ d, Shows (l.side d).ed.last (l.side d.peer).ed := fun d =>
    (h.last d).shows (hq d)
  have htold : ∀ d, Told (l.side d) := fun d => h.told d (.inl (hq d.peer)) (hq d)
  have hlarger : ∀ d p, larger p (l.side d).ed = l.maxPolicy p := by
    intro d p
    have hbound := (h.last d).bound p
    have hpeer := (hshows d).values p
    rw [maxPolicy_eq l d p] at hbound ⊢
    rw [larger]
    omega
  have hgiven : ∀ d, Given (l.side d) l.maxPolicy := by
    intro d
    have hg := (htold d).given
    simp only [hlarger] at hg
    exact hg
  have htimers := fun d => timersExact_of_given (hgiven d) hfit
  refine ⟨hgiven, ?_, htimers, fun d => ?_⟩
  · rw [(htold .one).gpid, (htold .other).gpid]
    have hone := hshows .one
    have hother := hshows .other
    have hstations := (h.last .one).stations
    have hstations' := (h.last .other).stations
    have hbridges := (h.last .one).bridges
    have hbridges' := (h.last .other).bridges
    rw [End.forall_iff .one] at hstations hstations' hbridges hbridges'
    simp only [End.peer] at hone hother hstations hstations' hbridges hbridges'
    by_cases hs : isStation (l.side .one).ed <;> by_cases hs' : isStation (l.side .other).ed
    · rw [gpidOf, gpidOf, if_pos hs, if_pos hs', hstations ⟨hs, hs'⟩, hstations' ⟨hs, hs'⟩]
      rfl
    · rw [gpidOf, gpidOf, if_pos hs, if_neg hs', hone.bridge hs', hother.station hs]
    · rw [gpidOf, gpidOf, if_neg hs, if_pos hs', hone.station hs', hother.bridge hs]
    · rw [gpidOf, gpidOf, if_neg hs, if_neg hs', hbridges ⟨hs, hs'⟩, hbridges' ⟨hs, hs'⟩]
      simp
  · rw [(htimers d).stationKa, (htimers d.peer).bridgeKa]
    have hpos : 0 < (1 + 2 * l.maxPolicy .retries) * 2 ^ l.maxPolicy .rte :=
      Nat.mul_pos (by omega) (Nat.two_pow_pos _)
    omega

/-- In every run that keeps to what is still about, two ends that have heard each other agree. -/
theorem agreed_of_keeps {l : Evb22Link} (h : evb22Link.ReachableWhere Evb22Link.Keeps l)
    (hq : l.Quiet) : l.Agreed := by
  have hinv : LinkInv l ∧ (l.Quiet → l.TimersFit) := by
    refine h.invariant (I := fun l => LinkInv l ∧ (l.Quiet → l.TimersFit)) ?_ ?_
    · intro l hinit
      refine ⟨linkInv_of_init hinit, fun hquiet => ?_⟩
      obtain ⟨-, -, hheard⟩ := hinit.1 .one
      rw [hquiet .one] at hheard
      exact Bool.noConfusion hheard
    · rintro l l' ev ⟨hl, -⟩ hk hstep
      cases hstep
      refine ⟨hl.step hk, fun hquiet => ?_⟩
      have hmax := maxPolicy_of_quiet hquiet
      have hfits := hk.fits
      refine ⟨?_, ?_, ?_⟩
      · rw [hmax, hmax]
        exact hfits.retries
      · rw [hmax]
        exact hfits.rwd
      · rw [hmax]
        exact hfits.rka
  exact hinv.1.agreed hq (hinv.2 hq)

/-! ### Two runs -/

/-- Every TLV that is held, in a list. -/
def heldTlvs (l : Evb22Link) : List Evb22Tlv :=
  [End.one, .other].flatMap fun d => (l.side d).ed.last :: (l.wire d).map (·.tlv)

theorem mem_heldTlvs (h : l.Held t) : t ∈ heldTlvs l := by
  obtain ⟨d, hd⟩ := h
  refine List.mem_flatMap.mpr ⟨d, by cases d <;> simp, ?_⟩
  rcases hd with rfl | ⟨m, hm, rfl⟩
  · exact .head _
  · exact .tail _ (List.mem_map_of_mem hm)

instance : Decidable l.TimersFit :=
  decidable_of_iff ((1 + 2 * l.maxPolicy .retries) * 2 ^ l.maxPolicy .rte * 10 < 2 ^ 31 ∧
    2 ^ l.maxPolicy .rwd * 10 < 2 ^ 31 ∧ 2 ^ l.maxPolicy .rka * 10 < 2 ^ 31)
    ⟨fun h => ⟨h.1, h.2.1, h.2.2⟩, fun h => ⟨h.1, h.2, h.3⟩⟩

instance : Decidable l.Quiet :=
  decidable_of_iff ((l.side .one).heard = true ∧ (l.side .other).heard = true)
    (End.forall_iff .one fun d => (l.side d).heard = true).symm

/-- `Keeps`, as it is checked along a run. -/
def keepsCheck (l : Evb22Link) (e : Evb22Event) : Bool :=
  decide l.TimersFit && match e with
    | .set d p value => (heldTlvs l).all fun t => decide ((p.value t).toNat
        ≤ max (value % (p.limit + 1)).toNat (p.value (l.side d.peer).ed.policy).toNat)
    | _ => true

theorem keeps_of_check (h : keepsCheck l ev = true) : l.Keeps ev := by
  obtain ⟨hfits, hset⟩ := (Bool.and_eq_true _ _).mp h
  refine ⟨of_decide_eq_true hfits, fun d p value hev _ t ht => ?_⟩
  subst hev
  exact of_decide_eq_true (List.all_eq_true.mp hset t (mem_heldTlvs ht))

/-- What a configuration says that has nothing in it. -/
def defaultConfig (bridge : Bool) : Evb22Config where
  txmit := true
  bridge := bridge
  rwd := 20
  gid := 0
  rrreq := 0
  rrcap := 0
  retries := 3
  rte := 8
  rka := 20

/-- A station and a bridge that have just been set up. -/
def freshLink : Evb22Link where
  side d :=
    { ed := evb22InitTlv (defaultConfig (d = .other))
      ecp22 := ⟨3, 8⟩
      vdp22 := ⟨3, 8, 20, 20, false, true⟩ }
  wire _ := []

theorem freshLink_init : evb22Link.init freshLink := ⟨fun _ => ⟨_, rfl, rfl⟩, fun _ => rfl⟩

/-- A station raises an exponent and both ends support group identifiers. -/
def raised : List Evb22Event :=
  [.send .one, .deliver .other 0, .gpid .one true, .gpid .other true, .set .one .rte 10,
    .send .one, .deliver .other 0, .send .other, .deliver .one 0]

theorem raised_agreed :
    ∃ l, evb22Link.ReachableWhere Evb22Link.Keeps l ∧ l.Quiet ∧
      (l.maxPolicy .rte = 10 ∧ (l.side .one).vdp22.gpid = true) ∧ l.Agreed := by
  obtain ⟨l, hrun, hl⟩ := System.exists_runWhere evb22Link keepsCheck (fun _ _ => keeps_of_check)
    freshLink raised
    (fun l => decide (l.Quiet ∧ l.maxPolicy .rte = 10 ∧ (l.side .one).vdp22.gpid = true))
    (by decide +kernel)
  obtain ⟨hq, hvalues⟩ := of_decide_eq_true hl
  have hreach : evb22Link.ReachableWhere Evb22Link.Keeps l :=
    ⟨freshLink, raised, freshLink_init, hrun⟩
  exact ⟨l, hreach, hq, hvalues, agreed_of_keeps hreach hq⟩

/-- The station takes its setting back, and what the bridge sends is still the old value. -/
def lowered : List Evb22Event :=
  [.set .one .rte 10, .send .one, .deliver .other 0, .send .other, .deliver .one 0,
    .set .one .rte 8, .send .one, .deliver .other 0, .send .other, .deliver .one 0,
    .send .one, .deliver .other 0, .send .other, .deliver .one 0]

/-- The largest exponent of the keep-alive interval that is accepted. -/
def longest : List Evb22Event :=
  [.set .one .rka 31, .send .one, .deliver .other 0, .send .other, .deliver .one 0]

/-- Two ends that have heard each other and do not use the maximum of their policies, and two
that do and whose keep-alive timers are not what the formulas say. -/
theorem not_agreed :
    (∃ l, evb22Link.Reachable l ∧ l.Quiet ∧ l.TimersFit ∧
      (l.side .one).ecp22.maxRte.toNat = 10 ∧ l.maxPolicy .rte = 8 ∧ ¬l.Agreed) ∧
    ∃ l, evb22Link.Reachable l ∧ l.Quiet ∧ l.maxPolicy .rka = 31 ∧
      vdp22stStartKatimer (l.side .one).vdp22 = 0 ∧ ¬l.Agreed := by
  constructor
  · obtain ⟨l, hrun, hl⟩ := System.exists_run evb22Link freshLink lowered
      (fun l => decide (l.Quiet ∧ l.TimersFit ∧ (l.side .one).ecp22.maxRte.toNat = 10 ∧
        l.maxPolicy .rte = 8)) (by decide +kernel)
    obtain ⟨hq, hfit, hten, height⟩ := of_decide_eq_true hl
    refine ⟨l, ⟨freshLink, lowered, freshLink_init, hrun⟩, hq, hfit, hten, height, fun h => ?_⟩
    have hgiven := (h.given .one).ecpRte
    omega
  · obtain ⟨l, hrun, hl⟩ := System.exists_run evb22Link freshLink longest
      (fun l => decide (l.Quiet ∧ l.maxPolicy .rka = 31 ∧
        vdp22stStartKatimer (l.side .one).vdp22 = 0)) (by decide +kernel)
    obtain ⟨hq, hrka, htimer⟩ := of_decide_eq_true hl
    refine ⟨l, ⟨freshLink, longest, freshLink_init, hrun⟩, hq, hrka, htimer, fun h => ?_⟩
    have hexact := (h.timers .one).stationKa
    have hpos := Nat.two_pow_pos (l.maxPolicy .rka)
    omega

end Lldpad.Qbg.Evb22
