import Lldpad.Proofs.Qbg.VdpStation
import Lldpad.Qbg.VdpSystem
import Mathlib.Data.List.Find

/-!
# `Lldpad.Proofs.Qbg.VdpMoves`: what an event does to a profile

`vdpStep_moved` says what one event of an interface does to the profile `h`: nothing, or one of
the moves of `VdpMove`. It also says what happens to the flag of ECP that a profile changed: only
the transmit machine clears it. The invariants of the profiles look at one profile and at one
move.

`VdpCtx.Wf` is what every list of profiles fulfils: they are different, and none was freed.
-/

namespace Lldpad.Qbg

open Lldpad.Lib
open Lldpad.Lldp (Bytes)

/-- The profile without what it asked for. -/
def ProfileCtx.reset (x : ProfileCtx) : ProfileCtx := { x with changed := 0, acks := 0, back := [] }

/-- A list of different profiles that are not freed. What a profile asked for was done. The
numbers from `next` on are not used yet. -/
structure VdpCtx.Wf (s : VdpCtx) : Prop where
  taken : ∀ h, (s.nodes h).reset = s.nodes h
  nodup : s.que.Nodup
  lt : ∀ h ∈ s.que, h < s.next
  live : ∀ h ∈ s.que, (s.nodes h).freed = false
  fresh : ∀ h, s.next ≤ h → s.nodes h = {}

/-- What `vdp_request` does with the profile that it added or found -/
def vdpRequested (c : ProfileCtx) : ProfileCtx :=
  c.set fun p => { p with noNlmsg := true, txmit := false }

/-- What an event may do to the profile `h`, and the profile behind it. -/
inductive VdpMove (s : VdpCtx) : VdpEvent → Nat → ProfileCtx → Prop
  | requestedNew {vsi : VdpnlVsi} (hfind : vdpFindProfile s (vdpRequestProfile vsi) = none) :
      VdpMove s (.request vsi) s.next
        (vdpRequested (vdpAddProfileNew { profile := vdpRequestProfile vsi }))
  | requestedHit {vsi : VdpnlVsi} {h : Nat} (hmem : h ∈ s.que) :
      VdpMove s (.request vsi) h
        (vdpRequested (vdpAddProfileHit (vdpRequestProfile vsi) (s.nodes h)))
  | modeNew {p : VdpProfile} (hfind : vdpFindProfile s (vdpParseModeLine p) = none) :
      VdpMove s (.mode p) s.next (vdpAddProfileNew { profile := vdpParseModeLine p })
  | modeHit {p : VdpProfile} {h : Nat} (hmem : h ∈ s.que) :
      VdpMove s (.mode p) h (vdpAddProfileHit (vdpParseModeLine p) (s.nodes h))
  | queried {number h : Nat} (hmem : h ∈ s.que) (hnumber : s.que[number]? = some h) :
      VdpMove s (.status (number + 1)) h (vdpStatusHit (s.nodes h))
  | indicated {info ack : Bytes} {q : VdpProfile} {h : Nat} (hrole : s.role = .station)
      (hmem : h ∈ s.que) :
      VdpMove s (.tlv info ack) h (vdpStationIndicate q (s.nodes h))
  /-- a TLV in the role of a bridge: the copy -/
  | bridged {info ack : Bytes} {q : VdpProfile} {x : ProfileCtx} (hrole : s.role = .bridge)
      (htlv : vdpProfileOfTlv info = .ok (some q))
      (hrun : vdpVsiSmBridge { profile := q, freed := (vdpFindProfile s q).isSome } = .ok x) :
      VdpMove s (.tlv info ack) s.next x
  | advanced {h : Nat} {y : ProfileCtx} (hmem : h ∈ s.que)
      (hrun : vdpAdvance (s.nodes h) = .ok y) : VdpMove s .advance h y
  | expired {t : VdpTimer} {h : Nat} {y : ProfileCtx} (hlt : h < s.next)
      (hrun : vdpExpire t (s.nodes h) = .ok y) : VdpMove s (.timer t h) h y
  /-- the transmit machine of ECP ran -/
  | transmitted {e : VdpEvent} {h : Nat} {p : VsiProfile} {packed : Bool} (hmem : h ∈ s.que) :
      VdpMove s e h ((s.nodes h).afterEcp p packed)
  | started {h : Nat} (hmem : h ∈ s.que) : VdpMove s .ifup h (vdpStartTimers (s.nodes h))
  | stopped {h : Nat} (hmem : h ∈ s.que) : VdpMove s .ifdown h (vdpStopTimers (s.nodes h))

/-- The transmit machine of ECP runs. -/
def VdpEvent.runsEcp : VdpEvent → Bool
  | .ecpAckTimeout | .ecpLocalchange | .ecpAck _ => true
  | _ => false

/-- The flag of ECP that a profile changed -/
def VdpCtx.flag (s : VdpCtx) : Bool := s.vd.ecp.tx.localChange

/-- The flag stays when it is up, and no acknowledgement is left. -/
structure EcpKept (vd vd' : VdpData) : Prop where
  flag : vd.ecp.tx.localChange = true → vd'.ecp.tx.localChange = true
  ackReceived : vd.ecp.ackReceived = false → vd'.ecp.ackReceived = false

/-- Every profile is as before, or an event moved it. -/
structure VdpCtx.Moved (s : VdpCtx) (e : VdpEvent) (s' : VdpCtx) : Prop where
  wf : s'.Wf
  ecp : e.runsEcp = false → EcpKept s.vd s'.vd
  node : ∀ h, (s'.nodes h = s.nodes h ∧ (h ∈ s'.que → h ∈ s.que) ∧ (h < s'.next → h < s.next)) ∨
    ∃ y, VdpMove s e h y ∧ s'.nodes h = y.reset ∧ (0 < y.changed → s'.flag = true) ∧
      (h ∈ s'.que → h ∈ s.que ∨ h = s.next)

/-! ### The flag of ECP -/

theorem EcpKept.refl (vd : VdpData) : EcpKept vd vd := ⟨fun h => h, fun h => h⟩

theorem EcpKept.trans {x y z : VdpData} (h : EcpKept x y) (h' : EcpKept y z) : EcpKept x z :=
  ⟨fun hx => h'.flag (h.flag hx), fun hx => h'.ackReceived (h.ackReceived hx)⟩

theorem ecpChanged_kept (n : Nat) (vd : VdpData) : EcpKept vd (ecpChanged n vd) := by
  induction n with
  | zero => exact .refl vd
  | succ n ih => exact ⟨fun _ => rfl, ih.ackReceived⟩

theorem ecpChanged_raised {n : Nat} (hn : 0 < n) (vd : VdpData) :
    (ecpChanged n vd).ecp.tx.localChange = true := by
  cases n with
  | zero => cases hn
  | succ n => rfl

theorem ecpRxSendAckFrames_kept (ack : Bytes) (n : Nat) (vd : VdpData) :
    EcpKept vd (ecpRxSendAckFrames ack n vd) := by
  induction n with
  | zero => exact .refl vd
  | succ n ih => exact ⟨ih.flag, ih.ackReceived⟩

namespace VdpCtx

/-! ### One profile -/

@[simp] theorem put_nodes_self (s : VdpCtx) (h : Nat) (x : ProfileCtx) :
    (s.put h x).nodes h = x.reset := Function.update_self ..

variable {e : VdpEvent} {s' : VdpCtx} {h : Nat}

theorem put_nodes_of_ne (s : VdpCtx) {i : Nat} (x : ProfileCtx) (hne : i ≠ h) :
    (s.put h x).nodes i = s.nodes i := Function.update_of_ne hne ..

theorem put_kept (s : VdpCtx) (h : Nat) (x : ProfileCtx) : EcpKept s.vd (s.put h x).vd :=
  ecpChanged_kept ..

theorem put_put_kept (s : VdpCtx) (h i : Nat) (x y : ProfileCtx) :
    EcpKept s.vd ((s.put h x).put i y).vd := (s.put_kept h x).trans (put_kept _ i y)

variable {x : ProfileCtx}

theorem put_raised (s : VdpCtx) (h : Nat) (hx : 0 < x.changed) :
    (s.put h x).flag = true := ecpChanged_raised hx s.vd

theorem mem_of_mem_put {s : VdpCtx} {i : Nat} (hi : i ∈ (s.put h x).que) :
    i ∈ s.que := by
  unfold put at hi
  split_ifs at hi
  · exact List.mem_of_mem_erase hi
  · exact hi

theorem Wf.put {s : VdpCtx} (hs : s.Wf) (hlt : h < s.next) : (s.put h x).Wf where
  taken i := by
    rcases eq_or_ne i h with rfl | hne
    · rw [put_nodes_self]
      rfl
    · rw [put_nodes_of_ne s x hne]
      exact hs.taken i
  nodup := by
    unfold VdpCtx.put
    split_ifs
    · exact hs.nodup.erase h
    · exact hs.nodup
  lt i hi := hs.lt i (mem_of_mem_put hi)
  live i hi := by
    rcases eq_or_ne i h with rfl | hne
    · rw [put_nodes_self]
      by_contra hfreed
      rw [Bool.not_eq_false] at hfreed
      have hfreed' : x.freed = true := hfreed
      unfold VdpCtx.put at hi
      rw [if_pos hfreed'] at hi
      exact hs.nodup.not_mem_erase hi
    · rw [put_nodes_of_ne s x hne]
      exact hs.live i (mem_of_mem_put hi)
  fresh i hi := by
    have hne : i ≠ h := (lt_of_lt_of_le hlt hi).ne'
    rw [put_nodes_of_ne s x hne]
    exact hs.fresh i hi

theorem Wf.moved_put {s : VdpCtx} (hs : s.Wf) {y : ProfileCtx}
    (hmove : VdpMove s e h y) (hlt : h < s.next) : s.Moved e (s.put h y) where
  wf := hs.put hlt
  ecp _ := put_kept s h y
  node i := by
    rcases eq_or_ne i h with rfl | hne
    · exact .inr ⟨y, hmove, put_nodes_self s i y, put_raised s i, fun hi =>
        .inl (mem_of_mem_put hi)⟩
    · exact .inl ⟨put_nodes_of_ne s y hne, mem_of_mem_put, fun hlt => hlt⟩

theorem Wf.moved_of_eq {s : VdpCtx} (hs : s.Wf)
    (hecp : e.runsEcp = false → EcpKept s.vd s'.vd) (hque : s'.que = s.que)
    (hnodes : s'.nodes = s.nodes) (hnext : s'.next = s.next) : s.Moved e s' where
  wf := by
    constructor
    · rw [hnodes]; exact hs.taken
    · rw [hque]; exact hs.nodup
    · rw [hque, hnext]; exact hs.lt
    · rw [hque, hnodes]; exact hs.live
    · rw [hnodes, hnext]; exact hs.fresh
  ecp := hecp
  node h := .inl ⟨congrFun hnodes h, fun hmem => hque ▸ hmem, fun hlt => hnext ▸ hlt⟩

theorem Wf.moved_list {s : VdpCtx} (hs : s.Wf)
    (hecp : e.runsEcp = false → EcpKept s.vd s'.vd) (hque : s'.que = s.que)
    (hnext : s'.next = s.next) (hout : ∀ h, h ∉ s.que → s'.nodes h = s.nodes h)
    (hin : ∀ h ∈ s.que, s'.nodes h = s.nodes h ∨
      (VdpMove s e h (s'.nodes h) ∧ (s'.nodes h).freed = (s.nodes h).freed ∧
        (s'.nodes h).reset = s'.nodes h)) : s.Moved e s' := by
  refine ⟨⟨fun h => ?_, ?_, fun h hmem => ?_, fun h hmem => ?_, fun h hle => ?_⟩, hecp,
    fun h => ?_⟩
  · by_cases hmem : h ∈ s.que
    · rcases hin h hmem with heq | ⟨_, _, hreset⟩
      · rw [heq, hs.taken h]
      · exact hreset
    · rw [hout h hmem, hs.taken h]
  · rw [hque]
    exact hs.nodup
  · rw [hnext]
    exact hs.lt h (hque ▸ hmem)
  · rw [hque] at hmem
    rcases hin h hmem with heq | ⟨_, hfreed, _⟩
    · rw [heq]
      exact hs.live h hmem
    · rw [hfreed]
      exact hs.live h hmem
  · rw [hnext] at hle
    rw [hout h fun hmem => absurd (hs.lt h hmem) (Nat.not_lt.mpr hle)]
    exact hs.fresh h hle
  · by_cases hmem : h ∈ s.que
    · rcases hin h hmem with heq | ⟨hmove, _, hreset⟩
      · exact .inl ⟨heq, fun _ => hmem, fun hlt => hnext ▸ hlt⟩
      · refine .inr ⟨_, hmove, hreset.symm, fun hchanged => ?_, fun _ => .inl hmem⟩
        -- what was taken from the profile asks for nothing
        have hzero : (s'.nodes h).changed = 0 := (congrArg ProfileCtx.changed hreset).symm
        omega
    · exact .inl ⟨hout h hmem, fun hmem' => absurd (hque ▸ hmem') hmem, fun hlt => hnext ▸ hlt⟩

theorem Wf.alloc {s : VdpCtx} (hs : s.Wf) (hx : x.reset = x) :
    (s.alloc x).Wf where
  taken h := by
    rcases eq_or_ne h s.next with rfl | hne
    · show (Function.update s.nodes s.next _ s.next).reset = Function.update s.nodes s.next _ s.next
      rw [Function.update_self, hx]
    · show (Function.update s.nodes s.next _ h).reset = Function.update s.nodes s.next _ h
      rw [Function.update_of_ne hne]
      exact hs.taken h
  nodup := hs.nodup
  lt h hmem := Nat.lt_succ_of_lt (hs.lt h hmem)
  live h hmem := by
    show (Function.update s.nodes s.next _ h).freed = false
    rw [Function.update_of_ne (Nat.ne_of_lt (hs.lt h hmem))]
    exact hs.live h hmem
  fresh h hle := by
    show Function.update s.nodes s.next _ h = {}
    rw [Function.update_of_ne (Nat.ne_of_gt (Nat.lt_of_succ_le hle))]
    exact hs.fresh h ((Nat.le_succ _).trans hle)

theorem alloc_nodes_self (s : VdpCtx) (x : ProfileCtx) : (s.alloc x).nodes s.next = x :=
  Function.update_self ..

theorem alloc_nodes_of_ne (s : VdpCtx) (x : ProfileCtx) (hne : h ≠ s.next) :
    (s.alloc x).nodes h = s.nodes h := Function.update_of_ne hne ..

theorem Wf.insertHead {s : VdpCtx} (hs : s.Wf) (hx : x.reset = x)
    (hlive : x.freed = false) : ((s.alloc x).insertHead s.next).Wf where
  taken := (hs.alloc hx).taken
  nodup := List.nodup_cons.mpr ⟨fun hmem => Nat.lt_irrefl _ (hs.lt _ hmem), hs.nodup⟩
  lt h hmem := by
    rcases List.mem_cons.mp hmem with rfl | hmem
    · exact Nat.lt_succ_self _
    · exact Nat.lt_succ_of_lt (hs.lt h hmem)
  live h hmem := by
    rcases List.mem_cons.mp hmem with rfl | hmem
    · show ((s.alloc x).nodes s.next).freed = false
      rw [alloc_nodes_self, hlive]
    · exact (hs.alloc hx).live h hmem
  fresh := (hs.alloc hx).fresh

theorem moved_insert {s : VdpCtx} {y : ProfileCtx} (hwf : s'.Wf) (hmove : VdpMove s e s.next y)
    (hecp : EcpKept s.vd s'.vd) (hchanged : 0 < y.changed → s'.flag = true)
    (hself : s'.nodes s.next = y.reset) (hother : ∀ h, h ≠ s.next → s'.nodes h = s.nodes h)
    (hque : ∀ h ∈ s'.que, h ∈ s.que ∨ h = s.next) (hnext : s'.next = s.next + 1) :
    s.Moved e s' where
  wf := hwf
  ecp _ := hecp
  node h := by
    rcases eq_or_ne h s.next with rfl | hne
    · exact .inr ⟨y, hmove, hself, hchanged, fun _ => .inr rfl⟩
    · exact .inl ⟨hother h hne, fun hmem => (hque h hmem).resolve_right hne, fun hlt => by omega⟩

end VdpCtx

/-! ### Requests -/

variable {s : VdpCtx}

variable {s' : VdpCtx} {e : VdpEvent} {info ack : Bytes} {h : Nat}

theorem mem_of_findProfile {q : VdpProfile}
    (hfind : vdpFindProfile s q = some h) : h ∈ s.que := List.mem_of_find?_eq_some hfind

/-- `vdp_add_profile` works on the profile that it finds, or on a new one at the head of the
list. -/
theorem vdpAddProfile_cases (p : VdpProfile) (s : VdpCtx) :
    (∃ h ∈ s.que, vdpAddProfile p s = (s.put h (vdpAddProfileHit p (s.nodes h)), h)) ∨
      (vdpFindProfile s p = none ∧
        vdpAddProfile p s = (((s.alloc { profile := p }).insertHead s.next).put s.next
          (vdpAddProfileNew { profile := p }), s.next)) := by
  unfold vdpAddProfile
  cases hfind : vdpFindProfile s p with
  | some h => exact .inl ⟨h, mem_of_findProfile hfind, rfl⟩
  | none => exact .inr ⟨rfl, rfl⟩

theorem VdpCtx.Wf.put_insert (hs : s.Wf) (p : VdpProfile) (y : ProfileCtx) :
    (((s.alloc { profile := p }).insertHead s.next).put s.next y).Wf :=
  (hs.insertHead rfl rfl).put (Nat.lt_succ_self s.next)

theorem put_insert_nodes_of_ne (s : VdpCtx) (x y : ProfileCtx) (hne : h ≠ s.next) :
    (((s.alloc x).insertHead s.next).put s.next y).nodes h = s.nodes h :=
  (VdpCtx.put_nodes_of_ne _ y hne).trans (s.alloc_nodes_of_ne x hne)

theorem mem_put_insert {p : VdpProfile} {y : ProfileCtx}
    (hmem : h ∈ (((s.alloc { profile := p }).insertHead s.next).put s.next y).que) :
    h ∈ s.que ∨ h = s.next :=
  (List.mem_cons.mp (VdpCtx.mem_of_mem_put hmem)).symm

theorem vdpSetArgMode_moved (hs : s.Wf) (p : VdpProfile) :
    s.Moved (.mode p) (vdpSetArgMode p s) := by
  unfold vdpSetArgMode
  cases s.vd.port with
  | none => exact hs.moved_of_eq (fun _ => .refl _) rfl rfl rfl
  | some port =>
    rcases vdpAddProfile_cases (vdpParseModeLine p) s with ⟨h, hmem, heq⟩ | ⟨hfind, heq⟩
    · rw [heq]
      exact hs.moved_put (.modeHit hmem) (hs.lt h hmem)
    · rw [heq]
      exact VdpCtx.moved_insert (hs.put_insert _ _) (.modeNew hfind)
        (VdpCtx.put_kept ((s.alloc _).insertHead _) s.next _)
        (fun hchanged => VdpCtx.put_raised _ _ hchanged) (VdpCtx.put_nodes_self ..)
        (fun h hne => put_insert_nodes_of_ne _ _ _ hne) (fun h => mem_put_insert) rfl

theorem vdpRequest_moved (hs : s.Wf) (vsi : VdpnlVsi) :
    s.Moved (.request vsi) (vdpRequest vsi s) := by
  have hsame : s.Moved (.request vsi) s := hs.moved_of_eq (fun _ => .refl _) rfl rfl rfl
  unfold vdpRequest
  cases s.vd.port with
  | none => exact hsame
  | some port =>
    dsimp only
    split_ifs with hrefused
    · exact hsame
    · rcases vdpAddProfile_cases (vdpRequestProfile vsi) s with ⟨h, hmem, heq⟩ | ⟨hfind, heq⟩
      · rw [heq]
        rw [VdpCtx.put_nodes_self]
        have hlt := hs.lt h hmem
        refine ⟨(hs.put hlt).put hlt, fun _ => s.put_put_kept h h _ _, fun i => ?_⟩
        · rcases eq_or_ne i h with rfl | hne
          · refine .inr ⟨_, .requestedHit hmem, VdpCtx.put_nodes_self .., fun hchanged => ?_,
              fun _ => .inl hmem⟩
            exact (VdpCtx.put_kept ..).flag (VdpCtx.put_raised s i
              (show 0 < ProfileCtx.changed (vdpAddProfileHit _ _) from hchanged))
          · refine .inl ⟨?_, fun hi => VdpCtx.mem_of_mem_put (VdpCtx.mem_of_mem_put hi),
              fun hlt => hlt⟩
            rw [VdpCtx.put_nodes_of_ne _ _ hne, VdpCtx.put_nodes_of_ne _ _ hne]
      · rw [heq]
        rw [VdpCtx.put_nodes_self]
        refine VdpCtx.moved_insert ((hs.put_insert _ _).put (Nat.lt_succ_self s.next))
          (.requestedNew hfind) (VdpCtx.put_put_kept ((s.alloc _).insertHead _) s.next s.next _ _)
          (fun hchanged => ?_)
          (VdpCtx.put_nodes_self ..) (fun h hne => ?_)
          (fun h hmem => mem_put_insert (VdpCtx.mem_of_mem_put hmem)) rfl
        · exact (VdpCtx.put_kept ..).flag (VdpCtx.put_raised _ _
            (show 0 < ProfileCtx.changed (vdpAddProfileNew _) from hchanged))
        · rw [VdpCtx.put_nodes_of_ne _ _ hne, put_insert_nodes_of_ne _ _ _ hne]

theorem vdpStatus_moved (hs : s.Wf) (number : Nat) :
    s.Moved (.status number) (vdpStatus number s) := by
  have hsame : s.Moved (.status number) s := hs.moved_of_eq (fun _ => .refl _) rfl rfl rfl
  cases number with
  | zero => exact hsame
  | succ number =>
    unfold vdpStatus
    dsimp only
    cases hnumber : s.que[number]? with
    | none => exact hsame
    | some h =>
      have hmem := List.mem_of_getElem? hnumber
      exact hs.moved_put (.queried hmem hnumber) (hs.lt h hmem)

/-! ### TLVs -/

theorem vdpIndicateStation_moved (hs : s.Wf) (q : VdpProfile)
    (hrole : s.role = .station) : s.Moved (.tlv info ack) (vdpIndicateStation q s) := by
  unfold vdpIndicateStation
  cases hfind : vdpFindProfile s q with
  | none => exact hs.moved_of_eq (fun _ => .refl _) rfl rfl rfl
  | some h =>
    have hmem := mem_of_findProfile hfind
    exact hs.moved_put (.indicated hrole hmem) (hs.lt h hmem)

theorem vdpIndicateBridge_moved {s : VdpCtx} (hs : s.Wf) {q : VdpProfile}
    (hrole : s.role = .bridge) (htlv : vdpProfileOfTlv info = .ok (some q))
    (hrun : vdpIndicateBridge q ack s = .ok s') : s.Moved (.tlv info ack) s' := by
  obtain ⟨x, hx, hs'⟩ := bind_eq_ok.mp hrun
  have hmove : VdpMove s (.tlv info ack) s.next x := .bridged hrole htlv hx
  cases hs'
  -- the acknowledgements change neither the profiles nor the flag
  have hacks : ∀ t : VdpCtx, EcpKept t.vd (t.sendAcks ack x.acks).vd :=
    fun t => ecpRxSendAckFrames_kept ack x.acks t.vd
  cases hknown : (vdpFindProfile s q).isSome with
  | true =>
    have hwf : ((s.alloc { profile := q }).put s.next x).Wf :=
      (hs.alloc rfl).put (Nat.lt_succ_self s.next)
    refine VdpCtx.moved_insert ⟨hwf.taken, hwf.nodup, hwf.lt, hwf.live, hwf.fresh⟩ hmove
      ((VdpCtx.put_kept s s.next x).trans (hacks _))
      (fun hchanged => (hacks _).flag (VdpCtx.put_raised _ _ hchanged))
      (VdpCtx.put_nodes_self ..) (fun h hne => ?_)
      (fun h hmem => .inl (VdpCtx.mem_of_mem_put hmem)) rfl
    · exact (VdpCtx.put_nodes_of_ne _ x hne).trans (s.alloc_nodes_of_ne _ hne)
  | false =>
    have hwf := hs.put_insert q x
    refine VdpCtx.moved_insert ⟨hwf.taken, hwf.nodup, hwf.lt, hwf.live, hwf.fresh⟩ hmove
      ((VdpCtx.put_kept s s.next x).trans (hacks _))
      (fun hchanged => (hacks _).flag (VdpCtx.put_raised _ _ hchanged))
      (VdpCtx.put_nodes_self ..) (fun h hne => ?_) (fun h hmem => mem_put_insert hmem) rfl
    · exact put_insert_nodes_of_ne s _ x hne

theorem vdpIndicate_moved {s : VdpCtx} (hs : s.Wf)
    (hrun : vdpIndicate info ack s = .ok s') : s.Moved (.tlv info ack) s' := by
  have hsame : s.Moved (.tlv info ack) s := hs.moved_of_eq (fun _ => .refl _) rfl rfl rfl
  unfold vdpIndicate at hrun
  cases hport : s.vd.port with
  | none =>
    rw [hport] at hrun
    cases hrun
    exact hsame
  | some port =>
    rw [hport] at hrun
    obtain ⟨q, htlv, hrun⟩ := bind_eq_ok.mp hrun
    cases q with
    | none =>
      cases hrun
      exact hsame
    | some q =>
      cases hrole : s.role with
      | station =>
        rw [hrole] at hrun
        cases hrun
        exact vdpIndicateStation_moved hs q hrole
      | bridge =>
        rw [hrole] at hrun
        exact vdpIndicateBridge_moved hs hrole htlv hrun

/-- The loop of `vdp_advance_sm`, over profiles that are different and in use: each one is
worked on once, as it was before the loop. -/
theorem advance_fold (l : List Nat) : ∀ t t' : VdpCtx, t.Wf → l.Nodup → (∀ h ∈ l, h < t.next) →
    l.foldlM (fun s h => s.on h vdpAdvance) t = .ok t' →
    t'.Wf ∧ t'.next = t.next ∧ EcpKept t.vd t'.vd ∧ (∀ h ∈ t'.que, h ∈ t.que) ∧
      ∀ h, (h ∉ l ∧ t'.nodes h = t.nodes h) ∨
        (h ∈ l ∧ ∃ y, vdpAdvance (t.nodes h) = .ok y ∧ t'.nodes h = y.reset ∧
          (0 < y.changed → t'.flag = true)) := by
  induction l with
  | nil =>
    rintro t t' ht - - ⟨⟩
    exact ⟨ht, rfl, .refl _, fun h hmem => hmem, fun h => .inl ⟨List.not_mem_nil, rfl⟩⟩
  | cons i l ih =>
    intro t t' ht hnodup hlt hrun
    obtain ⟨hnot, hnodup⟩ := List.nodup_cons.mp hnodup
    obtain ⟨u, hu, hrun⟩ := bind_eq_ok.mp hrun
    obtain ⟨y, hy, hu⟩ := bind_eq_ok.mp hu
    cases hu
    have hwf := ht.put (x := y) (hlt i List.mem_cons_self)
    obtain ⟨hwf', hnext, hecp, hque, hnode⟩ := ih _ _ hwf hnodup
      (fun h hmem => hlt h (List.mem_cons_of_mem i hmem)) hrun
    refine ⟨hwf', hnext, (VdpCtx.put_kept ..).trans hecp,
      fun h hmem => VdpCtx.mem_of_mem_put (hque h hmem), fun h => ?_⟩
    · rcases hnode h with ⟨hmem, heq⟩ | ⟨hmem, z, hz, heq, hchanged⟩
      · rcases eq_or_ne h i with rfl | hne
        · exact .inr ⟨List.mem_cons_self, y, hy, heq.trans (VdpCtx.put_nodes_self ..),
            fun h => hecp.flag (VdpCtx.put_raised _ _ h)⟩
        · exact .inl ⟨by simp [hne, hmem], heq.trans (VdpCtx.put_nodes_of_ne t y hne)⟩
      · have hne : h ≠ i := fun heq => hnot (heq ▸ hmem)
        rw [VdpCtx.put_nodes_of_ne t y hne] at hz
        exact .inr ⟨List.mem_cons_of_mem i hmem, z, hz, heq, hchanged⟩

theorem vdpAdvanceSm_moved {s : VdpCtx} (hs : s.Wf) (hrun : vdpAdvanceSm s = .ok s') :
    s.Moved .advance s' := by
  obtain ⟨hwf, hnext, hecp, hque, hnode⟩ := advance_fold s.que s s' hs hs.nodup hs.lt hrun
  refine ⟨hwf, fun _ => hecp, fun h => ?_⟩
  rcases hnode h with ⟨hmem, heq⟩ | ⟨hmem, y, hy, heq, hchanged⟩
  · exact .inl ⟨heq, hque h, fun hlt => hnext ▸ hlt⟩
  · exact .inr ⟨y, .advanced hmem hy, heq, hchanged, fun h' => .inl (hque h h')⟩

/-! ### ECP and the interface -/

theorem ProfileCtx.reset_eq_self {x : ProfileCtx} :
    x.reset = x ↔ x.changed = 0 ∧ x.acks = 0 ∧ x.back = [] := by
  rcases x with ⟨⟩
  simp only [ProfileCtx.reset, ProfileCtx.mk.injEq, true_and, eq_comm]

theorem VdpCtx.Wf.moved_afterEcp (hs : s.Wf)
    (he : e.runsEcp = true) (vd : VdpData) (packed : List Bool) :
    s.Moved e (s.afterEcp vd packed) := by
  have hkey : ∀ {h x}, (s.que.zip (vd.profiles.zip packed)).lookup h = some x → h ∈ s.que := by
    intro h x hlookup
    obtain ⟨l₁, l₂, hzip, -⟩ := List.lookup_eq_some_iff.mp hlookup
    have hmem : (h, x) ∈ s.que.zip (vd.profiles.zip packed) := by simp [hzip]
    exact (List.of_mem_zip hmem).1
  refine hs.moved_list (fun hno => absurd (he.symm.trans hno) (by decide)) rfl rfl
    (fun h hmem => ?_) (fun h hmem => ?_)
  · unfold VdpCtx.afterEcp
    dsimp only
    cases hlookup : (s.que.zip (vd.profiles.zip packed)).lookup h with
    | none => rfl
    | some x => exact absurd (hkey hlookup) hmem
  · unfold VdpCtx.afterEcp
    dsimp only
    cases hlookup : (s.que.zip (vd.profiles.zip packed)).lookup h with
    | none => exact .inl rfl
    | some x =>
      obtain ⟨p, packed⟩ := x
      have htaken := ProfileCtx.reset_eq_self.mp (hs.taken h)
      have hreset : ((s.nodes h).afterEcp p packed).reset = (s.nodes h).afterEcp p packed :=
        ProfileCtx.reset_eq_self.mpr htaken
      exact .inr ⟨.transmitted hmem, rfl, hreset⟩

theorem onEcp_moved {s : VdpCtx} (hs : s.Wf) (he : e.runsEcp = true)
    {f : VdpData → Except Fault VdpData} (hrun : s.onEcp f = .ok s') : s.Moved e s' := by
  obtain ⟨vd, -, hs'⟩ := bind_eq_ok.mp hrun
  cases hs'
  exact hs.moved_afterEcp he vd _

@[simp] theorem vdpStopTimers_freed (c : ProfileCtx) : (vdpStopTimers c).freed = c.freed := by
  unfold vdpStopTimers vdpStopAckTimer vdpStopKeepaliveTimer ProfileCtx.set
  dsimp only
  split_ifs <;> exact c.deref_freed

@[simp] theorem vdpStartTimers_freed (c : ProfileCtx) : (vdpStartTimers c).freed = c.freed := by
  unfold vdpStartTimers vdpStartAckTimer vdpStartKeepaliveTimer vdpSomethingChangedLocal
    ProfileCtx.set
  dsimp only
  split_ifs <;> exact c.deref_freed

theorem vdpStartTimers_reset {c : ProfileCtx} (hlive : c.freed = false) (hc : c.reset = c) :
    (vdpStartTimers c).reset = vdpStartTimers c := by
  rw [ProfileCtx.reset_eq_self] at hc ⊢
  unfold vdpStartTimers vdpStartAckTimer vdpStartKeepaliveTimer vdpSomethingChangedLocal
    ProfileCtx.set
  rw [ProfileCtx.deref_of_live hlive]
  dsimp only
  split_ifs <;> exact hc

theorem vdpStopTimers_reset {c : ProfileCtx} (hlive : c.freed = false) (hc : c.reset = c) :
    (vdpStopTimers c).reset = vdpStopTimers c := by
  rw [ProfileCtx.reset_eq_self] at hc ⊢
  unfold vdpStopTimers vdpStopAckTimer vdpStopKeepaliveTimer ProfileCtx.set
  rw [ProfileCtx.deref_of_live hlive]
  dsimp only
  split_ifs <;> exact hc

theorem VdpCtx.Wf.moved_forall {s t : VdpCtx} (hs : s.Wf)
    {f : ProfileCtx → ProfileCtx} (hque : t.que = s.que) (hnext : t.next = s.next)
    (hnodes : t.nodes = s.nodes) (hecp : e.runsEcp = false → EcpKept s.vd t.vd)
    (hfreed : ∀ x, (f x).freed = x.freed)
    (hreset : ∀ x : ProfileCtx, x.freed = false → x.reset = x → (f x).reset = f x)
    (hmove : ∀ h ∈ s.que, VdpMove s e h (f (s.nodes h))) : s.Moved e (t.forall' f) := by
  refine hs.moved_list hecp hque hnext (fun h hmem => ?_) (fun h hmem => ?_)
  · have hout : (t.forall' f).nodes h = t.nodes h := if_neg (hque ▸ hmem)
    rw [hout, hnodes]
  · have hin : (t.forall' f).nodes h = f (s.nodes h) := by
      rw [← hnodes]
      exact if_pos (hque.symm ▸ hmem)
    rw [hin]
    exact .inr ⟨hmove h hmem, hfreed _, hreset _ (hs.live h hmem) (hs.taken h)⟩

/-! ### One event -/

theorem vdpExpire_fresh (t : VdpTimer) : vdpExpire t {} = .ok {} := by
  cases t <;> rfl

/-- One event does to every profile what `VdpMove` says. -/
theorem vdpStep_moved {s : VdpCtx} (hs : s.Wf) (hstep : vdpStep s e = .ok s') :
    s.Moved e s' := by
  have hsame : ∀ t : VdpCtx, t.que = s.que → t.nodes = s.nodes → t.next = s.next →
      EcpKept s.vd t.vd → s.Moved e t := fun t hque hnodes hnext hecp =>
    hs.moved_of_eq (fun _ => hecp) hque hnodes hnext
  cases e with
  | request vsi =>
    cases hstep
    exact vdpRequest_moved hs vsi
  | mode p =>
    cases hstep
    exact vdpSetArgMode_moved hs p
  | status number =>
    cases hstep
    exact vdpStatus_moved hs number
  | tlv info ack => exact vdpIndicate_moved hs hstep
  | advance => exact vdpAdvanceSm_moved hs hstep
  | timer t h =>
    obtain ⟨y, hy, hs'⟩ := bind_eq_ok.mp hstep
    cases hs'
    by_cases hlt : h < s.next
    · exact hs.moved_put (.expired hlt hy) hlt
    · -- a number that is not used names no timer
      have hfresh := hs.fresh h (Nat.not_lt.mp hlt)
      rw [hfresh, vdpExpire_fresh] at hy
      cases hy
      refine hsame _ rfl ?_ rfl (VdpCtx.put_kept s h _)
      funext i
      rcases eq_or_ne i h with rfl | hne
      · rw [VdpCtx.put_nodes_self, hfresh]
        rfl
      · exact VdpCtx.put_nodes_of_ne s _ hne
  | ecpAckTimeout => exact onEcp_moved (f := fun vd => ecpHandle vd .ackTimeout) hs rfl hstep
  | ecpLocalchange => exact onEcp_moved (f := fun vd => ecpHandle vd .localchange) hs rfl hstep
  | ecpAck seqnr =>
    simp only [vdpStep] at hstep
    split at hstep
    · cases hstep
      exact hs.moved_of_eq (fun _ => .refl _) rfl rfl rfl
    · exact onEcp_moved hs rfl hstep
  | ecpRequest seqnr ack =>
    simp only [vdpStep] at hstep
    split at hstep
    · cases hstep
      exact hs.moved_of_eq (fun _ => .refl _) rfl rfl rfl
    · cases hstep
      exact hsame _ rfl rfl rfl ⟨fun h => h, fun _ => rfl⟩
  | ifup =>
    cases hstep
    exact hs.moved_forall rfl rfl rfl (fun _ => ⟨fun _ => rfl, fun h => h⟩) vdpStartTimers_freed
      (fun x => vdpStartTimers_reset) (fun h hmem => .started hmem)
  | ifdown =>
    cases hstep
    exact hs.moved_forall rfl rfl rfl (fun _ => ⟨fun h => h, fun h => h⟩) vdpStopTimers_freed
      (fun x => vdpStopTimers_reset) (fun h hmem => .stopped hmem)
  | port port =>
    cases hstep
    exact hsame _ rfl rfl rfl ⟨fun h => h, fun h => h⟩
  | update on =>
    cases hstep
    exact hsame _ rfl rfl rfl (.refl _)
  | role role =>
    cases hstep
    exact hsame _ rfl rfl rfl (.refl _)

theorem wf_vdpCreate (h : vdpSystem.init s) : s.Wf := by
  obtain ⟨role, own, port, rfl⟩ := h
  refine ⟨fun h => rfl, List.nodup_nil, ?_, ?_, fun h _ => rfl⟩
  · intro h hmem
    cases hmem
  · intro h hmem
    cases hmem

theorem wf_of_vdpReachable (h : vdpSystem.Reachable s) : s.Wf :=
  h.invariant (fun _ => wf_vdpCreate) fun _ _ _ hs he => (vdpStep_moved hs he).wf

/-! ### No two profiles are equal -/

theorem vdpAddProfileEnd_key (c : ProfileCtx) :
    (vdpAddProfileEnd c).profile.key = c.profile.key := by
  unfold vdpAddProfileEnd vdpSomethingChangedLocal
  split_ifs <;> rfl

theorem vdpAddProfileHit_key (new : VdpProfile) (c : ProfileCtx) :
    (vdpAddProfileHit new c).profile.key = c.profile.key := by
  unfold vdpAddProfileHit
  rw [vdpAddProfileEnd_key, ← c.deref_profile]
  unfold ProfileCtx.set
  dsimp only
  split_ifs <;> rfl

end Lldpad.Qbg
