import Lldpad.Proofs.Qbg.Vdp22Moves
import Lldpad.Proofs.Qbg.VdpMoves
import Lldpad.Qbg.StatusDump

/-!
# `Lldpad.Proofs.Qbg.StatusDump`: when a status dump is complete

A dump asks for the VSIs by their number, and a VSI that is finished is removed when it is
reported. The next one moves up to its number and is left out.

* `enumerates_vdp22Status`, `enumerates_vdpStatus`: what one question does to the queue.
* `foldlM_getlinkBody_some`, `foldlM_getlinkBody_room`, `foldlM_catvsisBody`: what the two loops
  report.
* `getlink_complete_iff`: a netlink message that has room, for any functions that build it.
* `dumpsRight_iff`: the dumps are complete and leave the netlink clients alone if and only if
  only the last VSI is finished, nothing is pending for a netlink client, and there is room.
-/

namespace Lldpad.Qbg

open Lldpad.Lib
open Lldpad.Lldp (Bytes)

/-! ### The queue -/

/-- The VSIs of an instance. -/
def Vdp22Ctx.elements (c : Vdp22Ctx) : List Vsi22Ctx := c.que.map c.nodes

/-- The profiles of the draft 0.2. -/
def VdpCtx.elements (s : VdpCtx) : List ProfileCtx := s.que.map s.nodes

/-- `vdp22_status` removes the VSI that it reports. -/
def Vsi22Ctx.finished (x : Vsi22Ctx) : Bool := x.vsi.status ≠ vdp22RespNone && x.vsi.flags.deleteMe

/-- `vdp_status` removes the profile that it reports. -/
def ProfileCtx.finished (x : ProfileCtx) : Bool :=
  x.profile.response ≠ vdpResponseNoResponse && x.profile.state = .exit

/-- What is left of a VSI that was reported. -/
def queried (x : Vsi22Ctx) : Vsi22Ctx :=
  { x with vsi := { x.vsi with flags := { x.vsi.flags with nlcmd := false, returnVid := false } } }

/-- What the control interface is told of a VSI. -/
def clifReport (x : Vsi22Ctx) : VdpnlVsi := (copyVsi {} x.vsi true).2

/-- What a netlink client is told of a VSI. -/
def nlReport (x : Vsi22Ctx) : NlPort where
  vsiUuid := x.vsi.vsi
  response := x.vsi.status.toUInt16

/-- What a netlink client is told of a profile. -/
def nlProfile (x : ProfileCtx) : NlPort where
  vsiUuid := x.profile.instanceId
  response := x.profile.response.toUInt16

theorem wf_of_vdp22Reachable {c : Vdp22Ctx} (h : vdp22System.Reachable c) : c.Wf := by
  refine h.invariant (I := Vdp22Ctx.Wf) ?_ fun c e c' hc he => (vdp22Step_moves hc he).wf
  rintro _ ⟨role, rfl⟩
  exact vdp22Create_wf role

theorem copyVsi_node (v : VdpnlVsi) (p : Vsi22) (clif : Bool) :
    (copyVsi v p clif).1 =
      { p with flags := { p.flags with nlcmd := false, returnVid := false } } := by
  unfold copyVsi
  dsimp only
  cases clif <;> cases hvid : p.flags.returnVid <;> simp

theorem copyVsi_nlPort (v : VdpnlVsi) (p : Vsi22) (clif : Bool) :
    (copyVsi v p clif).2.nlPort = { vsiUuid := p.vsi, response := p.status.toUInt16 } := by
  unfold copyVsi
  dsimp only
  split <;> rfl

theorem vdp22StatusHit_eq {x : Vsi22Ctx} (clif : Bool) (hlive : x.freed = false) :
    vdp22StatusHit clif x = { queried x with freed := x.finished } := by
  unfold vdp22StatusHit
  rw [deref_of_live hlive]
  dsimp only
  rw [copyVsi_node]
  by_cases hx : x.vsi.status ≠ vdp22RespNone ∧ x.vsi.flags.deleteMe = true
  · have hfinished : x.finished = true := by
      rw [Vsi22Ctx.finished, Bool.and_eq_true, decide_eq_true_iff]
      exact hx
    have hlive' : (queried x).deref = queried x := deref_of_live hlive
    rw [if_pos hx, hfinished]
    show { (queried x).deref with freed := true } = _
    rw [hlive']
  · have hfinished : x.finished = false := by
      rw [← Bool.not_eq_true, Vsi22Ctx.finished, Bool.and_eq_true, decide_eq_true_iff]
      exact hx
    have hsame : { queried x with freed := x.freed } = queried x := rfl
    rw [hlive] at hsame
    rw [if_neg hx, hfinished, hsame]
    rfl

/-! ### One question -/

/-- What a question does to the queue of an instance, and what it leaves of the instance. -/
theorem vdp22Status_hit {c : Vdp22Ctx} (hc : c.Wf) {pre rest : List Vsi22Ctx} {x : Vsi22Ctx}
    (hq : c.elements = pre ++ x :: rest) (v : VdpnlVsi) (clif : Bool) :
    ∃ c', vdp22Status (pre.length + 1) v clif c = (c', (copyVsi v x.vsi clif).2, true) ∧ c'.Wf ∧
      c'.elements = if x.finished then pre ++ rest else pre ++ queried x :: rest := by
  obtain ⟨h, hget, hmem, rfl, hlist⟩ := exists_handle hc.nodup hq
  have hlive := hc.live h hmem
  have hstatus : ∀ v, vdp22Status (pre.length + 1) v clif c
      = (c.put h (vdp22StatusHit clif (c.nodes h)), (copyVsi v (c.nodes h).vsi clif).2, true) := by
    intro v
    rw [vdp22Status, Nat.add_sub_cancel, hget]
    exact if_neg (Nat.succ_ne_zero _)
  have hwf : (c.put h (vdp22StatusHit clif (c.nodes h))).Wf := by
    have hstep : vdp22Step c (.status (pre.length + 1) clif)
        = .ok (c.put h (vdp22StatusHit clif (c.nodes h))) := by
      rw [vdp22Step, hstatus]
    exact (vdp22Step_moves hc hstep).wf
  refine ⟨_, hstatus v, hwf, ?_⟩
  obtain ⟨hkeep, hdrop⟩ := hlist (vdp22StatusHit clif (c.nodes h)).reset
  show (if (vdp22StatusHit clif (c.nodes h)).freed then c.que.erase h else c.que).map
    (Function.update c.nodes h (vdp22StatusHit clif (c.nodes h)).reset) = _
  have hhit := vdp22StatusHit_eq clif hlive
  cases hx : (c.nodes h).finished with
  | true =>
    have hfreed : (vdp22StatusHit clif (c.nodes h)).freed = true := by
      rw [hhit]
      exact hx
    rw [if_pos hfreed]
    exact hdrop
  | false =>
    have hsame : { queried (c.nodes h) with freed := (c.nodes h).freed } =
        queried (c.nodes h) := rfl
    rw [hlive] at hsame
    rw [hx, hsame] at hhit
    have hreset : (queried (c.nodes h)).reset = queried (c.nodes h) :=
      congrArg queried (hc.taken h)
    have hkept : ¬(queried (c.nodes h)).freed = true := by
      show ¬(c.nodes h).freed = true
      rw [hlive]
      decide
    rw [hhit, hreset] at hkeep
    rw [hhit, hreset, if_neg hkept]
    exact hkeep

theorem enumerates_vdp22Status :
    Enumerates (fun number vsi c => vdp22Status number vsi false c) vdp22Freemaclist VdpnlVsi.nlPort
      Vdp22Ctx.elements (fun c _ => c.Wf) Vsi22Ctx.finished queried nlReport where
  finish {c v n} _ hlen := by
    have hnone : c.que[n]? = none := by
      rw [Vdp22Ctx.elements, List.length_map] at hlen
      exact List.getElem?_eq_none hlen
    simp only [vdp22Status, Nat.add_sub_cancel, hnone, and_self]
  hit {c v pre x rest} hc hq := by
    obtain ⟨c', hstatus, hwf, hels⟩ := vdp22Status_hit hc hq v false
    exact ⟨c', _, hstatus, copyVsi_nlPort .., hwf, hels⟩

/-- What the control interface never sets in the record for the answers. -/
def Blank (v : VdpnlVsi) : Prop :=
  v.vsiMgrid = 0 ∧ v.nlVersion = .nlf1 ∧ v.reqSeq = 0 ∧ v.reqPid = 0

theorem enumerates_vdp22Status_clif :
    Enumerates (fun number vsi c => vdp22Status number vsi true c) vdp22Freemaclist id
      Vdp22Ctx.elements (fun c v => c.Wf ∧ Blank v) Vsi22Ctx.finished queried
      clifReport where
  finish {c v n} _ hlen := by
    have hnone : c.que[n]? = none := by
      rw [Vdp22Ctx.elements, List.length_map] at hlen
      exact List.getElem?_eq_none hlen
    simp only [vdp22Status, Nat.add_sub_cancel, hnone, and_self]
  hit {c v pre x rest} hg hq := by
    obtain ⟨hc, h₁, h₂, h₃, h₄⟩ := hg
    obtain ⟨c', hstatus, hwf, hels⟩ := vdp22Status_hit hc hq v true
    have hreport : (copyVsi v x.vsi true).2 = clifReport x := by
      simp only [copyVsi, clifReport, Bool.true_or, if_true, h₁, h₂, h₃, h₄]
    exact ⟨c', _, hstatus, hreport, ⟨hwf, h₁, h₂, h₃, h₄⟩, hels⟩

/-- `vdp_status` -/
theorem enumerates_vdpStatus :
    Enumerates vdpStatusRc vdp22Freemaclist VdpnlVsi.nlPort VdpCtx.elements
      (fun s _ => s.Wf) ProfileCtx.finished id nlProfile where
  finish {s v n} _ hlen := by
    have hnone : s.que[n]? = none := by
      rw [VdpCtx.elements, List.length_map] at hlen
      exact List.getElem?_eq_none hlen
    simp only [vdpStatusRc, hnone, and_self]
  hit {s v pre x rest} hs hq := by
    obtain ⟨h, hget, hmem, rfl, hlist⟩ := exists_handle hs.nodup hq
    have hlive := hs.live h hmem
    have hderef : (s.nodes h).deref = s.nodes h := by
      rw [ProfileCtx.deref, if_neg (by rw [hlive]; decide)]
    have hwf : (s.put h (vdpStatusHit (s.nodes h))).Wf := by
      have hstep : vdpStep s (.status (pre.length + 1))
          = .ok (s.put h (vdpStatusHit (s.nodes h))) := by
        simp only [vdpStep, vdpStatus, hget]
      exact (vdpStep_moved hs hstep).wf
    have hstatus : vdpStatusRc (pre.length + 1) v s = (s.put h (vdpStatusHit (s.nodes h)),
        { v with
          maclist := []
          response := (s.nodes h).profile.response.toUInt16
          vsiUuid := (s.nodes h).profile.instanceId }, true) := by
      simp only [vdpStatusRc, hget]
    refine ⟨_, _, hstatus, rfl, hwf, ?_⟩
    obtain ⟨hkeep, hdrop⟩ := hlist (vdpStatusHit (s.nodes h)).reset
    show (if (vdpStatusHit (s.nodes h)).freed then s.que.erase h else s.que).map
      (Function.update s.nodes h (vdpStatusHit (s.nodes h)).reset) = _
    cases hx : (s.nodes h).finished with
    | true =>
      have hboth : (s.nodes h).profile.response ≠ vdpResponseNoResponse ∧
          (s.nodes h).profile.state = .exit := by
        simpa [ProfileCtx.finished] using hx
      have hfreed : (vdpStatusHit (s.nodes h)).freed = true := by
        unfold vdpStatusHit
        rw [hderef, if_pos hboth]
        rfl
      rw [if_pos hfreed]
      exact hdrop
    | false =>
      have hnot : ¬((s.nodes h).profile.response ≠ vdpResponseNoResponse ∧
          (s.nodes h).profile.state = .exit) := by
        simpa [ProfileCtx.finished] using hx
      have hhit : vdpStatusHit (s.nodes h) = s.nodes h := by
        unfold vdpStatusHit
        rw [hderef, if_neg hnot]
      rw [hhit, hs.taken h] at hkeep
      rw [hhit, hs.taken h, if_neg (by rw [hlive]; decide)]
      exact hkeep

/-! ### The loop for the netlink clients -/

/-- The attributes of the entry for a VSI. -/
def NlPort.attrs (p : NlPort) : List PortAttr :=
  [.instanceUuid p.vsiUuid, .vf] ++
    if p.response ≠ vdpResponseNoResponse.toUInt16 then [.response p.response] else []

/-- The room that attributes take. -/
def attrsSize (attrs : List PortAttr) : Nat := (attrs.map PortAttr.size).sum

/-- The room that entries take, each with a header of four bytes. -/
def portsSize (ports : List (List PortAttr)) : Nat := (ports.map (4 + attrsSize ·)).sum

theorem portsSize_append (as bs : List (List PortAttr)) :
    portsSize (as ++ bs) = portsSize as + portsSize bs := by
  rw [portsSize, List.map_append, List.sum_append]
  rfl

theorem portsSize_singleton (as : List PortAttr) : portsSize [as] = 4 + attrsSize as :=
  List.sum_singleton

/-- An entry takes 32 bytes, or 40 with a response. -/
theorem attrs_size (p : NlPort) :
    attrsSize p.attrs = if p.response ≠ vdpResponseNoResponse.toUInt16 then 36 else 28 := by
  unfold NlPort.attrs
  split <;> rfl

theorem le_portsSize (l : List NlPort) : 32 * l.length ≤ portsSize (l.map NlPort.attrs) := by
  induction l with
  | nil => exact Nat.le_refl 0
  | cons p l ih =>
    have hsize : portsSize ((p :: l).map NlPort.attrs)
        = (4 + attrsSize p.attrs) + portsSize (l.map NlPort.attrs) := List.sum_cons
    rw [hsize, attrs_size, List.length_cons]
    split <;> omega

section

variable {M : Type} {nl : NlBuilder M} (hnl : nl.Lawful)

theorem vdpnlReply2_eq (p : NlPort) (nlh : M) :
    vdpnlReply2 nl p nlh = p.attrs.foldl nl.nlaPut nlh := by
  unfold vdpnlReply2 NlPort.attrs
  split <;> rfl

include hnl

/-- Of attributes that are put one after the other, those are in the entry that had room. -/
theorem foldl_nlaPut (l : List PortAttr) {msg : M} {ports : List (List PortAttr)}
    {as : List PortAttr} (hports : nl.ports msg = ports ++ [as]) :
    ∃ bs, nl.ports (l.foldl nl.nlaPut msg) = ports ++ [as ++ bs] ∧
      attrsSize bs + nl.left (l.foldl nl.nlaPut msg) = nl.left msg ∧
      (attrsSize l ≤ nl.left msg → bs = l) := by
  induction l generalizing msg as with
  | nil => exact ⟨[], by rw [List.append_nil]; exact hports, Nat.zero_add _, fun _ => rfl⟩
  | cons a l ih =>
    have hsize : attrsSize (a :: l) = a.size + attrsSize l := List.sum_cons
    rcases Nat.lt_or_ge (nl.left msg) a.size with hfull | hfit
    · obtain ⟨bs, hbs, hleft, -⟩ := ih hports
      rw [List.foldl_cons, hnl.attrFull a hfull]
      exact ⟨bs, hbs, hleft, fun hroom => by omega⟩
    · obtain ⟨hless, hput⟩ := hnl.attr a hports hfit
      obtain ⟨bs, hbs, hleft, hall⟩ := ih hput
      rw [List.append_assoc] at hbs
      refine ⟨a :: bs, hbs, ?_, fun hroom => by rw [hall (by omega)]⟩
      have hcons : attrsSize (a :: bs) = a.size + attrsSize bs := List.sum_cons
      rw [List.foldl_cons]
      omega

/-- One turn of the loop adds at most one entry, and what it adds has its room. -/
theorem getlinkBody_some {len : Nat} {acc r : Nat × M} {p : NlPort}
    (hr : getlinkBody nl len acc p = some r) :
    ∃ extra, nl.ports r.2 = nl.ports acc.2 ++ extra ∧ extra.length ≤ 1 ∧
      portsSize extra + nl.left r.2 = nl.left acc.2 := by
  unfold getlinkBody at hr
  dsimp only at hr
  split at hr
  · rcases Nat.lt_or_ge (nl.left acc.2) 4 with hfull | hfit
    · rw [hnl.nestFull _ hfull] at hr
      cases hr
    · obtain ⟨msg, hstart, hless, hports⟩ := hnl.nestPort hfit
      rw [hstart] at hr
      cases hr
      obtain ⟨bs, hbs, hleft, -⟩ := foldl_nlaPut hnl p.attrs hports
      rw [← vdpnlReply2_eq, List.nil_append] at hbs
      rw [← vdpnlReply2_eq] at hleft
      dsimp only
      rcases hnl.endPort hbs with ⟨hsame, hend⟩ | ⟨rfl, hmore, hend⟩
      · refine ⟨[bs], hend.trans hbs, Nat.le_refl 1, ?_⟩
        rw [portsSize_singleton]
        omega
      · refine ⟨[], by rw [hend, List.append_nil], Nat.zero_le 1, ?_⟩
        have hnone : portsSize [] = 0 := rfl
        have hnone' : attrsSize [] = 0 := rfl
        omega
  · cases hr
    exact ⟨[], (List.append_nil _).symm, Nat.zero_le 1, Nat.zero_add _⟩

theorem foldlM_getlinkBody_some {len : Nat} {l : List NlPort} {acc r : Nat × M}
    (hr : l.foldlM (getlinkBody nl len) acc = some r) :
    ∃ extra, nl.ports r.2 = nl.ports acc.2 ++ extra ∧ extra.length ≤ l.length ∧
      portsSize extra + nl.left r.2 = nl.left acc.2 := by
  induction l generalizing acc with
  | nil =>
    cases hr
    exact ⟨[], (List.append_nil _).symm, Nat.le_refl _, Nat.zero_add _⟩
  | cons p l ih =>
    rw [List.foldlM_cons] at hr
    obtain ⟨mid, hmid, hrest⟩ := Option.bind_eq_some_iff.mp hr
    obtain ⟨extra, hports, hone, hleft⟩ := getlinkBody_some hnl hmid
    obtain ⟨extra', hports', hlen, hleft'⟩ := ih hrest
    refine ⟨extra ++ extra', by rw [hports', hports, List.append_assoc], ?_, ?_⟩
    · rw [List.length_append, List.length_cons]
      omega
    · rw [portsSize_append]
      omega

/-- An entry that has room is added, if the counted length allows it. -/
theorem getlinkBody_room {len : Nat} {acc : Nat × M} {p : NlPort}
    (hlen : acc.1 + vdpNllen < len) (hroom : 4 + attrsSize p.attrs ≤ nl.left acc.2) :
    ∃ msg, getlinkBody nl len acc p = some (acc.1 + vdpNllen, msg) ∧
      nl.ports msg = nl.ports acc.2 ++ [p.attrs] ∧
      nl.left msg + (4 + attrsSize p.attrs) = nl.left acc.2 := by
  obtain ⟨msg, hstart, hless, hports⟩ := hnl.nestPort (show 4 ≤ nl.left acc.2 by omega)
  obtain ⟨bs, hbs, hleft, hall⟩ := foldl_nlaPut hnl p.attrs hports
  rw [← vdpnlReply2_eq, hall (by omega), List.nil_append] at hbs
  rw [← vdpnlReply2_eq, hall (by omega)] at hleft
  refine ⟨nl.nlaNestEnd (vdpnlReply2 nl p msg) .vfPort, ?_, ?_⟩
  · unfold getlinkBody
    rw [if_pos hlen, hstart]
  · rcases hnl.endPort hbs with ⟨hsame, hend⟩ | ⟨hempty, -⟩
    · exact ⟨hend.trans hbs, by omega⟩
    · cases hempty

theorem foldlM_getlinkBody_room {len : Nat} {l : List NlPort} {acc : Nat × M}
    (hlen : l = [] ∨ acc.1 + vdpNllen * l.length < len)
    (hroom : portsSize (l.map NlPort.attrs) ≤ nl.left acc.2) :
    ∃ r, l.foldlM (getlinkBody nl len) acc = some r ∧
      nl.ports r.2 = nl.ports acc.2 ++ l.map NlPort.attrs := by
  induction l generalizing acc with
  | nil => exact ⟨acc, rfl, (List.append_nil _).symm⟩
  | cons p l ih =>
    have hlt : acc.1 + vdpNllen * (p :: l).length < len := hlen.resolve_left (by simp)
    have hsum : acc.1 + vdpNllen * (p :: l).length
        = acc.1 + vdpNllen + vdpNllen * l.length := by
      rw [List.length_cons, Nat.mul_succ, Nat.add_assoc, Nat.add_comm vdpNllen]
    have hsize : portsSize ((p :: l).map NlPort.attrs)
        = (4 + attrsSize p.attrs) + portsSize (l.map NlPort.attrs) := List.sum_cons
    obtain ⟨msg, hstep, hports, hleft⟩ := getlinkBody_room hnl (p := p)
      (show acc.1 + vdpNllen < len by omega) (show _ ≤ nl.left acc.2 by omega)
    have hroom' : portsSize (l.map NlPort.attrs) ≤ nl.left msg := by omega
    obtain ⟨r, hfold, hr⟩ := @ih (acc.1 + vdpNllen, msg) (.inr (by omega)) hroom'
    rw [List.foldlM_cons, hstep]
    refine ⟨r, hfold, ?_⟩
    rw [hr, hports, List.append_assoc]
    rfl

/-- The room for the entries, behind the headers. -/
theorem getlinkStart_some {len : Nat} {msg : M} (h : getlinkStart nl len = some msg) :
    nl.ports msg = [] ∧ (32 ≤ nl.left msg → nl.left msg + 36 = len) := by
  unfold getlinkStart at h
  cases halloc : nl.nlmsgAllocSize len with
  | none =>
    rw [halloc] at h
    cases h
  | some start =>
    rw [halloc] at h
    dsimp only at h
    obtain ⟨hleft, hports⟩ := hnl.alloc halloc
    obtain ⟨hleft', hports'⟩ := hnl.header start
    have happend : nl.ports (nl.nlmsgAppend (nl.nlmsgPut start) 16) = [] ∧
        (32 ≤ nl.left (nl.nlmsgAppend (nl.nlmsgPut start) 16) →
          nl.left (nl.nlmsgAppend (nl.nlmsgPut start) 16) + 32 = len) := by
      rcases Nat.lt_or_ge (nl.left (nl.nlmsgPut start)) 16 with hfull | hfit
      · rw [hnl.appendFull 16 hfull]
        exact ⟨hports'.trans hports, fun hroom => by omega⟩
      · obtain ⟨hless, hsame⟩ := hnl.append 16 hfit
        exact ⟨hsame.trans (hports'.trans hports), fun hroom => by omega⟩
    rcases Nat.lt_or_ge (nl.left (nl.nlmsgAppend (nl.nlmsgPut start) 16)) 4 with hfull | hfit
    · rw [hnl.nestFull _ hfull] at h
      cases h
    · obtain ⟨msg', hstart, hless, hsame⟩ := hnl.nestPorts hfit
      rw [hstart] at h
      cases h
      exact ⟨hsame.trans happend.1, fun hroom => by have := happend.2 (by omega); omega⟩

variable (nl) in
/-- There is a message, and room in it for these reports. -/
def RoomFor (len : Nat) (l : List NlPort) : Prop :=
  ∃ msg, getlinkStart nl len = some msg ∧ portsSize (l.map NlPort.attrs) ≤ nl.left msg

/-- The headers take 36 bytes. -/
theorem roomFor_of_length {len : Nat} {msg : M} {l : List NlPort}
    (halloc : nl.nlmsgAllocSize len = some msg)
    (hlen : 36 + portsSize (l.map NlPort.attrs) ≤ len) : RoomFor nl len l := by
  obtain ⟨hleft, -⟩ := hnl.alloc halloc
  obtain ⟨hleft', -⟩ := hnl.header msg
  obtain ⟨hleft'', -⟩ := hnl.append 16 (show 16 ≤ nl.left (nl.nlmsgPut msg) by omega)
  obtain ⟨msg', hstart, hless, -⟩ := hnl.nestPorts
    (show 4 ≤ nl.left (nl.nlmsgAppend (nl.nlmsgPut msg) 16) by omega)
  refine ⟨msg', ?_, by omega⟩
  rw [getlinkStart, halloc]
  exact hstart

/-- The loop reports everything exactly once if and only if only the last entry is removed and
the message has room. -/
theorem getlink_complete_iff {σ α : Type} {status : Nat → VdpnlVsi → σ → σ × VdpnlVsi × Bool}
    {queue : σ → List α} {good : σ → VdpnlVsi → Prop} {removes : α → Bool} {touched : α → α}
    {report : α → NlPort}
    (h : Enumerates status vdp22Freemaclist VdpnlVsi.nlPort queue good removes touched report)
    (len : Nat) {s : σ} (hgood : good s {}) :
    (∃ s' msg, vdpnlGetlink nl status len (queue s).length s = some (s', some msg) ∧
        (nl.ports msg).Perm ((queue s).map fun x => (report x).attrs)) ↔
      (∀ x ∈ (queue s).dropLast, removes x = false) ∧
        RoomFor nl len ((queue s).map report) := by
  cases hstart : getlinkStart nl len with
  | none =>
    constructor
    · rintro ⟨s', msg, hget, -⟩
      rw [vdpnlGetlink, hstart] at hget
      cases hget
    · rintro ⟨-, msg, hsome, -⟩
      rw [hstart] at hsome
      cases hsome
  | some start =>
    obtain ⟨hnone, hlong⟩ := getlinkStart_some hnl hstart
    obtain ⟨s', hwalk, -⟩ := walk_start h (getlinkBody nl len) (getlinkHeader, start) hgood
      (Nat.lt_succ_self _)
    have hresult : vdpnlGetlink nl status len (queue s).length s
        = some (s', (((reported removes false (queue s)).map report).foldlM (getlinkBody nl len)
          (getlinkHeader, start)).map fun acc => nl.nlaNestEnd acc.2 .vfPorts) := by
      rw [vdpnlGetlink, hstart]
      dsimp only
      rw [hwalk]
    have hshort := (reported_sublist removes false (queue s)).length_le
    have hattrs : (queue s).map (fun x => (report x).attrs)
        = ((queue s).map report).map NlPort.attrs := by
      rw [List.map_map]
      rfl
    rw [hattrs]
    constructor
    · rintro ⟨s₁, msg, hget, hperm⟩
      rw [hresult] at hget
      obtain ⟨-, hmsg⟩ := Prod.mk.inj (Option.some.inj hget)
      obtain ⟨r, hfold, rfl⟩ := Option.map_eq_some_iff.mp hmsg
      obtain ⟨extra, hports, hcount, hleft⟩ := foldlM_getlinkBody_some hnl hfold
      rw [hnl.endPorts, hports, hnone, List.nil_append] at hperm
      have hlen := hperm.length_eq
      rw [List.length_map, List.length_map] at hlen
      rw [List.length_map] at hcount
      have hself : reported removes false (queue s) = queue s :=
        (reported_sublist removes false (queue s)).eq_of_length (by omega)
      refine ⟨(reported_eq_self removes _).mp hself, start, hstart, ?_⟩
      have hsize : portsSize extra = portsSize (((queue s).map report).map NlPort.attrs) :=
        (hperm.map _).sum_nat
      dsimp only at hleft
      omega
    · rintro ⟨hlast, msg, hsome, hroom⟩
      rw [hstart] at hsome
      cases hsome
      have hself := (reported_eq_self removes _).mpr hlast
      rw [hself] at hresult
      have hfit : (queue s).map report = [] ∨
          getlinkHeader + vdpNllen * ((queue s).map report).length < len := by
        -- the room of one entry is more than is counted for it
        have hsize := le_portsSize ((queue s).map report)
        rw [getlinkHeader, vdpNllen]
        rcases List.eq_nil_or_concat ((queue s).map report) with hnil | ⟨front, p, hsome⟩
        · exact .inl hnil
        · have hpos : 0 < ((queue s).map report).length := by
            rw [hsome]
            simp
          have hlen := hlong (by omega)
          exact .inr (by omega)
      obtain ⟨r, hfold, hports⟩ := @foldlM_getlinkBody_room _ _ hnl _ _ (getlinkHeader, start)
        hfit hroom
      rw [hfold] at hresult
      refine ⟨s', _, hresult, ?_⟩
      rw [hnl.endPorts, hports, hnone, List.nil_append]

end

/-! ### The loop for the control interface -/

section

variable (vdpVdpnl2str : VdpnlVsi → Nat → Option Bytes)

/-- VSIs that can be printed one behind the other. -/
def Printable : Nat → List VdpnlVsi → Prop
  | _, [] => True
  | room, vsi :: vsis => ∃ str, vdpVdpnl2str vsi room = some str ∧ str.length + 4 < room ∧
      Printable (room - (str.length + 4)) vsis

/-- What is printed: the VSIs with the mode, if they can be printed. -/
theorem foldlM_catvsisBody (wanted : UInt8) (outLen : Nat) (l : List VdpnlVsi) (used : Nat)
    (out : List VdpnlVsi) :
    (∀ r, l.foldlM (catvsisBody vdpVdpnl2str wanted outLen) (used, out) = some r →
        r.2 = out ++ l.filter (wanted = ·.request) ∧
          Printable vdpVdpnl2str (outLen - used) (l.filter (wanted = ·.request))) ∧
      (Printable vdpVdpnl2str (outLen - used) (l.filter (wanted = ·.request)) →
        l.foldlM (catvsisBody vdpVdpnl2str wanted outLen) (used, out) ≠ none) := by
  induction l generalizing used out with
  | nil =>
    refine ⟨fun r hr => ?_, fun _ h => by cases h⟩
    cases hr
    exact ⟨(List.append_nil out).symm, trivial⟩
  | cons vsi l ih =>
    rw [List.foldlM_cons]
    by_cases hwanted : wanted = vsi.request
    · rw [List.filter_cons_of_pos (by simpa using hwanted)]
      unfold catvsisBody
      rw [if_neg (by simpa using hwanted)]
      cases hstr : vdpVdpnl2str vsi (outLen - used) with
      | none =>
        refine ⟨fun r hr => (nomatch hr), fun hp => ?_⟩
        obtain ⟨str, hsome, -⟩ := hp
        rw [hstr] at hsome
        cases hsome
      | some str =>
        dsimp only
        by_cases hroom : str.length + 4 ≥ outLen - used
        · rw [if_pos hroom]
          refine ⟨fun r hr => (nomatch hr), fun hp => ?_⟩
          obtain ⟨str', hsome, hlt, -⟩ := hp
          rw [hstr] at hsome
          cases hsome
          omega
        · rw [if_neg hroom]
          obtain ⟨hright, hprints⟩ := ih (used + (str.length + 4)) (out ++ [vsi])
          have hleft : outLen - (used + (str.length + 4)) = outLen - used - (str.length + 4) := by
            omega
          rw [hleft] at hright hprints
          refine ⟨fun r hr => ?_, fun hp => hprints ?_⟩
          · obtain ⟨hout, hp⟩ := hright r hr
            exact ⟨by rw [hout, List.append_assoc]; rfl, str, hstr, Nat.lt_of_not_le hroom, hp⟩
          · obtain ⟨str', hsome, -, hp⟩ := hp
            rw [hstr] at hsome
            cases hsome
            exact hp
    · rw [List.filter_cons_of_neg (by simpa using hwanted)]
      have hskip : catvsisBody vdpVdpnl2str wanted outLen (used, out) vsi = some (used, out) :=
        if_pos hwanted
      rw [hskip]
      exact ih used out

/-- The VSI was requested by a netlink client. -/
def Vsi22Ctx.netlink (x : Vsi22Ctx) : Bool := havepid x.vsi ≠ 0

theorem netlink_queried (x : Vsi22Ctx) : (queried x).netlink = x.netlink := rfl

/-- A dump for the control interface prints every VSI with the mode exactly once, and leaves the
VSIs of the netlink clients as they are. -/
def ClifRight (outLen : Nat) (c : Vdp22Ctx) (wanted : UInt8) : Prop :=
  ∃ c' used out, catvsis vdpVdpnl2str outLen wanted c = some (c', some (used, out)) ∧
    out.Perm ((c.elements.map clifReport).filter (wanted = ·.request)) ∧
    c'.elements.filter Vsi22Ctx.netlink = c.elements.filter Vsi22Ctx.netlink

theorem map_queried_eq_self (l : List Vsi22Ctx) :
    l.map queried = l ↔
      ∀ x ∈ l, x.vsi.flags.nlcmd = false ∧ x.vsi.flags.returnVid = false := by
  have hone : ∀ x, queried x = x ↔
      x.vsi.flags.nlcmd = false ∧ x.vsi.flags.returnVid = false := by
    intro x
    constructor
    · intro h
      have hflags := congrArg (fun x : Vsi22Ctx => x.vsi.flags) h
      rw [← hflags]
      exact ⟨rfl, rfl⟩
    · rintro ⟨hn, hv⟩
      have hsame : { x.vsi.flags with
          nlcmd := x.vsi.flags.nlcmd, returnVid := x.vsi.flags.returnVid } = x.vsi.flags := rfl
      rw [hn, hv] at hsame
      rw [queried, hsame]
  induction l with
  | nil => simp
  | cons x l ih =>
    simp only [List.map_cons, List.cons.injEq, List.forall_mem_cons]
    exact and_congr (hone x) ih

/-- The VSIs of the netlink clients are what they were if and only if none of them was removed
and none changed. -/
theorem filter_netlink_eq (l : List Vsi22Ctx) :
    ((l.filter fun x => !x.finished).map queried).filter Vsi22Ctx.netlink
        = l.filter Vsi22Ctx.netlink ↔
      ∀ x ∈ l, x.netlink = true →
        x.finished = false ∧ x.vsi.flags.nlcmd = false ∧ x.vsi.flags.returnVid = false := by
  have hcomm : ((l.filter fun x => !x.finished).map queried).filter Vsi22Ctx.netlink
      = ((l.filter Vsi22Ctx.netlink).filter fun x => !x.finished).map queried := by
    have hnl : Vsi22Ctx.netlink ∘ queried = Vsi22Ctx.netlink := funext netlink_queried
    rw [List.filter_map, hnl, List.filter_filter, List.filter_filter]
    simp only [Bool.and_comm]
  have hall : (∀ x ∈ l, x.netlink = true →
        x.finished = false ∧ x.vsi.flags.nlcmd = false ∧ x.vsi.flags.returnVid = false) ↔
      ∀ x ∈ l.filter Vsi22Ctx.netlink,
        x.finished = false ∧ x.vsi.flags.nlcmd = false ∧ x.vsi.flags.returnVid = false := by
    simp only [List.mem_filter, and_imp]
  rw [hcomm, hall]
  generalize l.filter Vsi22Ctx.netlink = k
  constructor
  · intro heq
    -- nothing was removed, since the lists have one length
    have hlen := congrArg List.length heq
    rw [List.length_map, List.length_filter_eq_length_iff] at hlen
    have hkeep : (k.filter fun x => !x.finished) = k := List.filter_eq_self.mpr hlen
    rw [hkeep] at heq
    have hflags := (map_queried_eq_self k).mp heq
    exact fun x hx => ⟨by simpa using hlen x hx, hflags x hx⟩
  · intro hclean
    have hkeep : (k.filter fun x => !x.finished) = k :=
      List.filter_eq_self.mpr fun x hx => by simp [(hclean x hx).1]
    rw [hkeep]
    exact (map_queried_eq_self k).mpr fun x hx => (hclean x hx).2

/-- When only the last VSI is finished, a dump for the control interface is right if and only if
the VSIs can be printed and nothing of a netlink client is pending or finished. -/
theorem clifRight_iff {outLen : Nat} {c : Vdp22Ctx} (hc : c.Wf)
    (hlast : ∀ x ∈ c.elements.dropLast, x.finished = false) (wanted : UInt8) :
    ClifRight vdpVdpnl2str outLen c wanted ↔
      Printable vdpVdpnl2str outLen ((c.elements.map clifReport).filter (wanted = ·.request)) ∧
      ∀ x ∈ c.elements, x.netlink = true →
        x.finished = false ∧ x.vsi.flags.nlcmd = false ∧ x.vsi.flags.returnVid = false := by
  have hblank : Blank { request := wanted } := ⟨rfl, rfl, rfl, rfl⟩
  obtain ⟨c', hwalk, hleft⟩ := walk_start enumerates_vdp22Status_clif
    (catvsisBody vdpVdpnl2str wanted outLen) (0, []) (v := { request := wanted })
    ⟨hc, hblank⟩
    (Nat.lt_succ_self _)
  rw [(reported_eq_self Vsi22Ctx.finished _).mpr hlast] at hwalk hleft
  rw [remaining_of_last _ _ hlast] at hleft
  have hlen : c.elements.length = c.que.length := List.length_map _
  rw [hlen] at hwalk
  obtain ⟨hright, hprints⟩ := foldlM_catvsisBody vdpVdpnl2str wanted outLen
    (c.elements.map clifReport) 0 []
  rw [Nat.sub_zero] at hright hprints
  have hkept := filter_netlink_eq c.elements
  cases hfold : (c.elements.map clifReport).foldlM (catvsisBody vdpVdpnl2str wanted outLen) (0, [])
  with
  | none =>
    rw [hfold] at hwalk
    constructor
    · rintro ⟨c₁, used, out, hcat, -⟩
      have heq := hwalk.symm.trans hcat
      cases heq
    · rintro ⟨hp, -⟩
      exact absurd hfold (hprints hp)
  | some r =>
    rw [hfold] at hwalk hleft
    obtain ⟨hout, hp⟩ := hright r hfold
    have hels := hleft (by simp)
    constructor
    · rintro ⟨c₁, used, out, hcat, -, hsame⟩
      have heq := hwalk.symm.trans hcat
      cases heq
      rw [hels] at hsame
      exact ⟨hp, hkept.mp hsame⟩
    · rintro ⟨-, hclean⟩
      refine ⟨c', r.1, r.2, hwalk, ?_, ?_⟩
      · rw [hout]
        exact .refl _
      · rw [hels]
        exact hkept.mpr hclean

end

/-! ### Every dump -/

section

variable {M : Type} (nl : NlBuilder M) (vdpVdpnl2str : VdpnlVsi → Nat → Option Bytes)

/-- Every dump reports every VSI, or every profile, exactly once, and a dump for the control
interface leaves the netlink clients alone. A netlink message has `len` bytes and the buffer of
the control interface `outLen`. -/
structure DumpsRight (len outLen : Nat) (c : Vdp22Ctx) (s : VdpCtx) : Prop where
  netlink : ∃ c' msg, vdp22Getlink nl len c = some (c', some msg) ∧
    (nl.ports msg).Perm (c.elements.map fun x => (nlReport x).attrs)
  draft : ∃ s' msg, vdpGetlink nl len s = some (s', some msg) ∧
    (nl.ports msg).Perm (s.elements.map fun x => (nlProfile x).attrs)
  clif : ∀ wanted, ClifRight vdpVdpnl2str outLen c wanted

/-- At most the last VSI and the last profile is finished, no netlink client waits for a VSI or
has one that is finished, and there is room. -/
structure NothingPending (len outLen : Nat) (c : Vdp22Ctx) (s : VdpCtx) : Prop where
  last : ∀ x ∈ c.elements.dropLast, x.finished = false
  lastProfile : ∀ x ∈ s.elements.dropLast, x.finished = false
  clean : ∀ x ∈ c.elements, x.netlink = true →
    x.finished = false ∧ x.vsi.flags.nlcmd = false ∧ x.vsi.flags.returnVid = false
  room : RoomFor nl len (c.elements.map nlReport)
  roomProfile : RoomFor nl len (s.elements.map nlProfile)
  printable : ∀ wanted : UInt8, Printable vdpVdpnl2str outLen
    ((c.elements.map clifReport).filter (wanted = ·.request))

/-- The dumps are right if and only if nothing is pending. -/
theorem dumpsRight_iff (hnl : nl.Lawful) (len outLen : Nat) {c : Vdp22Ctx} {s : VdpCtx}
    (hc : vdp22System.Reachable c) (hs : vdpSystem.Reachable s) :
    DumpsRight nl vdpVdpnl2str len outLen c s ↔ NothingPending nl vdpVdpnl2str len outLen c s := by
  have hwf := wf_of_vdp22Reachable hc
  have hlen : c.elements.length = c.que.length := List.length_map _
  have hlen' : s.elements.length = s.que.length := List.length_map _
  have hnetlink := getlink_complete_iff hnl enumerates_vdp22Status len hwf
  have hdraft := getlink_complete_iff hnl enumerates_vdpStatus len (wf_of_vdpReachable hs)
  rw [hlen] at hnetlink
  rw [hlen'] at hdraft
  constructor
  · intro h
    obtain ⟨hlast, hroom⟩ := hnetlink.mp h.netlink
    obtain ⟨hlast', hroom'⟩ := hdraft.mp h.draft
    have hclif := fun wanted => (clifRight_iff vdpVdpnl2str hwf hlast wanted).mp (h.clif wanted)
    exact ⟨hlast, hlast', (hclif 0).2, hroom, hroom', fun wanted => (hclif wanted).1⟩
  · intro h
    exact ⟨hnetlink.mpr ⟨h.last, h.room⟩, hdraft.mpr ⟨h.lastProfile, h.roomProfile⟩, fun wanted =>
      (clifRight_iff vdpVdpnl2str hwf h.last wanted).mpr ⟨h.printable wanted, h.clean⟩⟩

end

/-- Netlink messages as the room that is left and the entries. -/
def entryMsgs : NlBuilder (Nat × List (List PortAttr)) where
  nlmsgAllocSize len := some (len - 16, [])
  nlmsgPut msg := msg
  nlmsgAppend msg n := if n ≤ msg.1 then (msg.1 - n, msg.2) else msg
  nlaNestStart msg nest :=
    if msg.1 < 4 then none
    else
      match nest with
      | .vfPorts => some (msg.1 - 4, msg.2)
      | .vfPort => some (msg.1 - 4, msg.2 ++ [[]])
  nlaPut msg attr :=
    if attr.size ≤ msg.1 then
      (msg.1 - attr.size, msg.2.dropLast ++ [msg.2.getLast?.getD [] ++ [attr]])
    else msg
  nlaNestEnd msg _ := msg
  left msg := msg.1
  ports msg := msg.2

theorem entryMsgs_lawful : entryMsgs.Lawful where
  alloc h := by
    cases h
    exact ⟨rfl, rfl⟩
  header _ := ⟨rfl, rfl⟩
  append n hfit := by
    dsimp only [entryMsgs] at hfit ⊢
    rw [if_pos hfit]
    exact ⟨Nat.sub_add_cancel hfit, rfl⟩
  appendFull n h := if_neg (Nat.not_le.mpr h)
  nestFull _ h := if_pos h
  nestPorts h := ⟨_, if_neg (Nat.not_lt.mpr h), Nat.sub_add_cancel h, rfl⟩
  nestPort h := ⟨_, if_neg (Nat.not_lt.mpr h), Nat.sub_add_cancel h, rfl⟩
  attr {msg ports attrs} attr hports hfit := by
    dsimp only [entryMsgs] at hports hfit ⊢
    rw [if_pos hfit]
    refine ⟨Nat.sub_add_cancel hfit, ?_⟩
    rw [hports]
    simp
  attrFull _ h := if_neg (Nat.not_le.mpr h)
  endPort _ := .inl ⟨rfl, rfl⟩
  endPorts _ := rfl

/-- A request of the control interface for a VLAN. -/
def clifRequest : VdpnlVsi :=
  { request := vdp22Assoc, vsiIdfmt := vdp22IdLocal, filterFmt := vdp22FfmtVid,
    maclist := [{ vlan := 5 }] }

/-- One VSI of the control interface, and no profile. -/
theorem oneVsi_dumpsRight :
    ∃ c s, (vdp22System.Reachable c ∧ vdpSystem.Reachable s ∧ c.elements.length = 1) ∧
      DumpsRight entryMsgs (fun _ _ => some []) 4096 4096 c s := by
  obtain ⟨c, hrun, hc⟩ := System.exists_run vdp22System (vdp22Create .station)
    [.fromEvb true true, .request clifRequest true]
    (fun c => decide ((c.elements.map fun x => (x.finished, x.netlink)) = [(false, false)]))
    (by decide +kernel)
  have hone : c.elements.map (fun x => (x.finished, x.netlink)) = [(false, false)] := by
    simpa using hc
  have hreach : vdp22System.Reachable c := ⟨_, _, ⟨.station, rfl⟩, hrun⟩
  have hreach' : vdpSystem.Reachable (vdpCreate .station nearestCustomerBridge none) :=
    System.reachable_of_init ⟨_, _, _, rfl⟩
  obtain ⟨x, hx, hvalues⟩ := List.map_eq_singleton_iff.mp hone
  obtain ⟨hfinished, hnetlink⟩ := Prod.mk.inj hvalues
  refine ⟨c, _, ⟨hreach, hreach', by rw [hx]; rfl⟩,
    (dumpsRight_iff _ _ entryMsgs_lawful _ _ hreach hreach').mpr ?_⟩
  refine ⟨?_, by decide, ?_, ?_, ?_, ?_⟩
  · rw [hx]
    intro y hy
    cases hy
  · rw [hx]
    intro y hy hnl
    rw [List.mem_singleton.mp hy, hnetlink] at hnl
    cases hnl
  · refine roomFor_of_length entryMsgs_lawful rfl ?_
    have hone : portsSize (([x].map nlReport).map NlPort.attrs)
        = 4 + attrsSize (nlReport x).attrs := portsSize_singleton _
    rw [hx, hone, attrs_size]
    split <;> decide
  · exact roomFor_of_length entryMsgs_lawful rfl (by decide)
  · intro wanted
    rw [hx, List.map_cons, List.map_nil, List.filter_cons]
    split
    · exact ⟨[], rfl, by decide, trivial⟩
    · trivial

/-- The request of a netlink client for a VLAN. -/
def netlinkRequest (vlan n : UInt8) : VdpnlVsi :=
  { request := vdp22Assoc - 1, vsiUuid := ⟨List.replicate 16 n, by simp⟩, vsiIdfmt := vdp22IdUuid,
    filterFmt := vdp22FfmtVid, maclist := [{ vlan := vlan.toUInt16 }], reqPid := 7 }

/-- The bridge refuses that request for lack of resources. -/
def refusal (vlan n : UInt8) : Vsi22 :=
  { vsiMode := vdp22Assoc, status := vdp22Ackbit ||| vdp22RespNoResources,
    vsiFmt := vdp22IdUuid, vsi := ⟨List.replicate 16 n, by simp⟩, fif := vdp22FfmtVid,
    fdata := [{ vlan := vlan.toUInt16 }] }

/-- When the bridge refuses two VSIs of a netlink client, the dump that reports the first one
removes it and skips the second one. -/
theorem not_dumpsRight :
    ¬ ∀ c s, vdp22System.Reachable c → vdpSystem.Reachable s →
      DumpsRight entryMsgs (fun _ _ => some []) 4096 4096 c s := by
  intro hall
  obtain ⟨c, hrun, hc⟩ := System.exists_run vdp22System (vdp22Create .station)
    [.fromEvb true true, .request (netlinkRequest 5 1) false, .request (netlinkRequest 6 2) false,
      .tlv (refusal 5 1), .tlv (refusal 6 2)]
    (fun c => decide ((c.elements.map Vsi22Ctx.finished) = [true, true])) (by decide +kernel)
  have htwo : c.elements.map Vsi22Ctx.finished = [true, true] := by simpa using hc
  have hreach : vdp22System.Reachable c := ⟨_, _, ⟨.station, rfl⟩, hrun⟩
  have hreach' : vdpSystem.Reachable (vdpCreate .station nearestCustomerBridge none) :=
    System.reachable_of_init ⟨_, _, _, rfl⟩
  -- the first VSI is finished and not the last one
  have hcomplete := getlink_complete_iff entryMsgs_lawful enumerates_vdp22Status 4096
    (wf_of_vdp22Reachable hreach)
  have hlen : c.elements.length = c.que.length := List.length_map _
  rw [hlen] at hcomplete
  have hlast := (hcomplete.mp (hall c _ hreach hreach').netlink).1
  obtain ⟨x, rest, hels, hfirst, hrest⟩ := List.map_eq_cons_iff.mp htwo
  obtain ⟨y, rest, rfl, -, -⟩ := List.map_eq_cons_iff.mp hrest
  rw [hels] at hlast
  have hopen : x.finished = false := hlast x (by simp)
  exact Bool.noConfusion (hfirst.symm.trans hopen)

end Lldpad.Qbg
