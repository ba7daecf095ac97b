import Lldpad.Qbg.Vdpnl

/-!
# `Lldpad.Proofs.Qbg.Vdpnl`: a netlink request is taken over whole or refused

`TakenOver` says what the VSI of a SETLINK message has: each MAC/VLAN pair of the message once, and
the type, the UUID and the request of its only port. `takenWhole_iff` is the exact condition: a
message that passes the checks (`Passes`) has one filter entry and one port, with a UUID and a
request (`Single`). Nothing checks for these:

* each entry overwrites the only `struct vdpnl_mac`, and a message without entries leaves its zeros;
* the ports are merged, and what none of them has stays zero;
* a VLAN is cut off to 16 bits.

A GETLINK message is never read inside its table, as `vdpnl_get` passes the number of entries for
the largest type. What a message has is what the functions of libnl find in it. `byteNl` is an
example of such functions.
-/

namespace Lldpad.Qbg

open Lldpad.Lib
open Lldpad.Lldp (Bytes)

/-! ### What a message has -/

section Has

variable (nl : Libnl)

/-- The table of a message, if it is accepted -/
def Nlmsg.table (m : Nlmsg) : Option NlaTable :=
  (nl.nlmsgParse sizeofIfinfomsg iflaMax noPolicy m).table

/-- The filter entries of a message -/
def vfInfos (tb : NlaTable) : List Nlattr := (tb iflaVfinfoList).elim [] nl.attrs

def vfTable (a : Nlattr) : Option NlaTable := (nl.nlaParse iflaVfMax iflaVfPolicy a.payload).table

/-- The pair of a filter entry: the MAC address, if it has one, and the VLAN -/
def pairOf (a : Nlattr) : Option (Option MacAddr × Nat) :=
  (vfTable nl a).bind fun vf => (vf iflaVfVlan).map fun vlan =>
    ((vf iflaVfMac).map fun mac => macAt mac 4, leNat vlan 4 4)

/-- The pairs of a VSI. A filter by VLAN has no MAC address. -/
def VdpnlVsi.pairs (vsi : VdpnlVsi) : List (Option (Option MacAddr × Nat)) :=
  vsi.maclist.map fun e =>
    some (if vsi.filterFmt = vdp22FfmtMacvid then some e.mac else none, e.vlan.toNat)

/-- What stands among the ports of a message -/
def vfPortAttrs (tb : NlaTable) : List Nlattr := (tb iflaVfPorts).elim [] nl.attrs

/-- The ports of a message -/
def vfPorts (tb : NlaTable) : List Nlattr :=
  (vfPortAttrs nl tb).filter fun a => a.type = iflaVfPort

def portTable (a : Nlattr) : Option NlaTable :=
  (nl.nlaParse iflaPortMax iflaPortPolicy a.payload).table

/-- The VSI has what the port says. -/
structure PortTaken (tb3 : NlaTable) (vsi : VdpnlVsi) : Prop where
  uuid : ∃ uuid, tb3 iflaPortInstanceUuid = some uuid ∧ vsi.vsiUuid = octetsAt 16 uuid 0
  request : ∃ request, tb3 iflaPortRequest = some request ∧ vsi.request = request.getD 0 0
  vsiType : ∀ pvsi, tb3 iflaPortVsiType = some pvsi →
    vsi.vsiMgrid = pvsi.getD 0 0 ∧ vsi.vsiTypeversion = pvsi.getD 4 0 ∧
      vsi.vsiTypeid = UInt64.ofNat (leNat pvsi 1 3)

/-- The VSI has each pair of the message once, and what its only port says. -/
structure TakenOver (tb : NlaTable) (vsi : VdpnlVsi) : Prop where
  filters : vfInfos nl tb ≠ []
  pairs : vsi.pairs = (vfInfos nl tb).map (pairOf nl)
  port : ∃ a tb3, vfPorts nl tb = [a] ∧ portTable nl a = some tb3 ∧ PortTaken tb3 vsi

/-- A message is refused or taken over, and no table is written behind its end. -/
def TakenWhole (names : Nat → Option Bytes) (m : Nlmsg) : Prop :=
  match m.type with
  | .setlink => ∃ r, vdpnlSetlink nl names m = .ok r ∧
      ∀ q, r = some q → ∃ tb, m.table nl = some tb ∧ TakenOver nl tb q.vsi
  | .getlink => ∃ r, vdpnlGet nl names m = .ok r
  | .other => True

/-! ### The condition -/

/-- A filter entry that passes -/
def InfoOk (a : Nlattr) : Prop := a.type = iflaVfInfo ∧ (pairOf nl a).isSome = true

/-- What stands among the ports and passes -/
def PortOk (a : Nlattr) : Prop := a.type = iflaVfPort → (portTable nl a).isSome = true

/-- The checks of `vdpnl_set` -/
structure Passes (names : Nat → Option Bytes) (m : Nlmsg) (tb : NlaTable) : Prop where
  name : (setIfname names m tb).isSome = true
  infoList : (tb iflaVfinfoList).isSome = true
  infos : ∀ a ∈ vfInfos nl tb, InfoOk nl a
  portList : (tb iflaVfPorts).isSome = true
  ports : ∀ a ∈ vfPortAttrs nl tb, PortOk nl a

/-- One filter entry, whose VLAN has 16 bits, and one port with a UUID and a request -/
structure Single (tb : NlaTable) : Prop where
  info : ∃ a p, vfInfos nl tb = [a] ∧ pairOf nl a = some p ∧ p.2 < 2 ^ 16
  port : ∃ a tb3, vfPorts nl tb = [a] ∧ portTable nl a = some tb3 ∧
    (tb3 iflaPortInstanceUuid).isSome = true ∧ (tb3 iflaPortRequest).isSome = true

/-- The condition -/
def SingleIfPasses (names : Nat → Option Bytes) (m : Nlmsg) : Prop :=
  match m.type with
  | .setlink => ∀ tb, m.table nl = some tb → Passes nl names m tb → Single nl tb
  | .getlink => False
  | .other => True

end Has

/-! ### The tables -/

theorem NlaParsed.into_of_fills {r : NlaParsed} {max : Nat} {policy : Nat → NlaPolicy}
    (h : r.Fills max policy) : r.into (max + 1) = .ok r.table := by
  refine if_pos ?_
  rw [List.all_eq_true]
  intro i hi
  have hle := (h.1 i).mp hi
  simp only [decide_eq_true_eq]
  omega

theorem onAttr_ok {attr : Option Bytes} {n : Nat} (write : Bytes → VdpnlVsi → VdpnlVsi)
    (hlen : ∀ b, attr = some b → n ≤ b.length) (vsi : VdpnlVsi) :
    onAttr attr n write vsi = .ok (attr.elim vsi (write · vsi)) := by
  cases attr with
  | none => rfl
  | some b => exact if_neg (Nat.not_lt.mpr (hlen b rfl))

/-- What a filter entry writes -/
def fillVfinfo (vf : NlaTable) (vsi : VdpnlVsi) : VdpnlVsi :=
  let vsi := (vf iflaVfMac).elim vsi (takeMac · vsi)
  (vf iflaVfVlan).elim vsi (takeVlan · vsi)

/-- What a port writes -/
def fillVfport (tb3 : NlaTable) (vsi : VdpnlVsi) : VdpnlVsi :=
  let vsi := (tb3 iflaPortVsiType).elim vsi (takeVsiType · vsi)
  let vsi := (tb3 iflaPortInstanceUuid).elim vsi (takeUuid · vsi)
  let vsi := (tb3 iflaPortRequest).elim vsi (takeRequest · vsi)
  (tb3 iflaPortResponse).elim vsi (takeResponse · vsi)

/-! ### The loops -/

theorem nlaForEach_eq {pass : VdpnlVsi → Nlattr → Except Fault (Option VdpnlVsi)}
    {good : Nlattr → Prop} [DecidablePred good] {step : VdpnlVsi → Nlattr → VdpnlVsi}
    (hpass : ∀ vsi a, pass vsi a = .ok (if good a then some (step vsi a) else none))
    (attrs : List Nlattr) (vsi : VdpnlVsi) :
    nlaForEach pass vsi attrs =
      .ok (if ∀ a ∈ attrs, good a then some (attrs.foldl step vsi) else none) := by
  induction attrs generalizing vsi with
  | nil => simp [nlaForEach]
  | cons a attrs ih =>
    rw [nlaForEach, hpass, bind_ok]
    by_cases ha : good a
    · rw [if_pos ha]
      show nlaForEach pass (step vsi a) attrs = _
      rw [ih]
      simp only [List.forall_mem_cons, ha, true_and, List.foldl_cons]
    · have hno : ¬∀ b ∈ a :: attrs, good b := fun h => ha (h a (List.mem_cons_self ..))
      rw [if_neg ha, if_neg hno]
      rfl

section Passes

variable {nl : Libnl}

instance : DecidablePred (InfoOk nl) := fun _ => inferInstanceAs (Decidable (_ ∧ _))

instance : DecidablePred (PortOk nl) := fun _ => inferInstanceAs (Decidable (_ → _))

variable (nl) in
/-- What a filter entry that passes does to the VSI -/
def infoStep (vsi : VdpnlVsi) (a : Nlattr) : VdpnlVsi :=
  match vfTable nl a with
  | none => vsi
  | some vf =>
    { fillVfinfo vf vsi with
      filterFmt := if (vf iflaVfMac).isSome then vdp22FfmtMacvid else vdp22FfmtVid }

variable (nl) in
/-- What stands among the ports, and what it does to the VSI -/
def portStep (vsi : VdpnlVsi) (a : Nlattr) : VdpnlVsi :=
  if a.type = iflaVfPort then ((portTable nl a).map fun tb3 => fillVfport tb3 vsi).getD vsi
  else vsi

theorem vfinfoPass_eq (hnl : nl.Lawful) (vsi : VdpnlVsi) (a : Nlattr) :
    vfinfoPass nl vsi a = .ok (if InfoOk nl a then some (infoStep nl vsi a) else none) := by
  have hfills := hnl.nlaParse iflaVfMax iflaVfPolicy a.payload
  unfold vfinfoPass
  by_cases htype : a.type = iflaVfInfo
  · rw [if_neg (not_not.mpr htype), NlaParsed.into_of_fills hfills, bind_ok]
    show (match vfTable nl a with | none => _ | some vf => _) = _
    cases hvf : vfTable nl a with
    | none => simp [InfoOk, pairOf, hvf]
    | some vf =>
      -- the policies have the lengths of the structures
      have hmacLen : ∀ b, vf iflaVfMac = some b → 10 ≤ b.length := fun b hb =>
        Nat.le_trans (by decide) (hfills.2 vf hvf _ b hb)
      have hvlanLen : ∀ b, vf iflaVfVlan = some b → 12 ≤ b.length := fun b hb =>
        hfills.2 vf hvf _ b hb
      dsimp only
      rw [onAttr_ok _ hmacLen, bind_ok, onAttr_ok _ hvlanLen, bind_ok]
      cases hvlan : vf iflaVfVlan with
      | none => simp [InfoOk, pairOf, hvf, hvlan]
      | some vlan =>
        cases hmac : vf iflaVfMac <;>
          simp [InfoOk, infoStep, fillVfinfo, pairOf, hvf, hvlan, hmac, htype]
  · rw [if_pos htype, if_neg fun h => htype h.1]

theorem vfportPass_eq (hnl : nl.Lawful) (vsi : VdpnlVsi) (a : Nlattr) :
    vfportPass nl vsi a = .ok (if PortOk nl a then some (portStep nl vsi a) else none) := by
  have hfills := hnl.nlaParse iflaPortMax iflaPortPolicy a.payload
  unfold vfportPass
  by_cases htype : a.type = iflaVfPort
  · rw [if_neg (not_not.mpr htype), NlaParsed.into_of_fills hfills, bind_ok]
    show (match portTable nl a with | none => _ | some tb3 => _) = _
    cases htable : portTable nl a with
    | none => simp [PortOk, htable, htype]
    | some tb3 =>
      have hleast : ∀ i n, n ≤ (iflaPortPolicy i).least → ∀ b, tb3 i = some b → n ≤ b.length :=
        fun i n hn b hb => Nat.le_trans hn (hfills.2 tb3 htable i b hb)
      dsimp only
      rw [onAttr_ok _ (hleast _ 5 (by decide)), bind_ok, onAttr_ok _ (hleast _ 16 (by decide)),
        bind_ok, onAttr_ok _ (hleast _ 1 (by decide)), bind_ok,
        onAttr_ok _ (hleast _ 2 (by decide)), bind_ok]
      simp [PortOk, portStep, fillVfport, htable, htype]
  · simp [PortOk, portStep, htype]

end Passes

section Set

variable {nl : Libnl} {names : Nat → Option Bytes} {m : Nlmsg} {tb : NlaTable}

variable (nl) in
/-- `vdpnl_setlink` after the header: the checks, and what is left when they pass -/
def madeOf (names : Nat → Option Bytes) (m : Nlmsg) (tb : NlaTable) : VdpnlRequest where
  ifname := (setIfname names m tb).getD []
  ifindex := m.ifindex
  vsi := (vfPortAttrs nl tb).foldl (portStep nl) ((vfInfos nl tb).foldl (infoStep nl)
    { vsiIdfmt := vdp22IdUuid, maclist := [{}], reqPid := m.pid, reqSeq := m.seq })

theorem nlmsgParse_into (hnl : nl.Lawful) (m : Nlmsg) :
    (nl.nlmsgParse sizeofIfinfomsg iflaMax noPolicy m).into (iflaMax + 1) = .ok (m.table nl) := by
  rcases Nat.lt_or_ge m.payload.length sizeofIfinfomsg with hshort | hlong
  · rw [Nlmsg.table, hnl.nlmsgShort _ _ hshort]
    rfl
  · exact NlaParsed.into_of_fills (hnl.nlmsgParse _ _ hlong)

theorem vdpnlSetlink_of_passes (hnl : nl.Lawful) (htb : m.table nl = some tb)
    (h : Passes nl names m tb) :
    vdpnlSetlink nl names m = .ok (some (madeOf nl names m tb)) := by
  obtain ⟨name, hname⟩ := Option.isSome_iff_exists.mp h.name
  obtain ⟨infos, hinfos⟩ := Option.isSome_iff_exists.mp h.infoList
  obtain ⟨ports, hports⟩ := Option.isSome_iff_exists.mp h.portList
  have hi : ∀ a ∈ nl.attrs infos, InfoOk nl a := by
    have := h.infos
    rwa [vfInfos, hinfos] at this
  have hp : ∀ a ∈ nl.attrs ports, PortOk nl a := by
    have := h.ports
    rwa [vfPortAttrs, hports] at this
  unfold vdpnlSetlink vdpnlSet madeOf
  simp only [nlmsgParse_into hnl, htb, bind_ok, hname, hinfos, hports, vdpnlVfinfolist, vdpnlVfports,
    nlaForEach_eq (vfinfoPass_eq hnl), nlaForEach_eq (vfportPass_eq hnl), if_pos hi, if_pos hp,
    vfInfos, vfPortAttrs, Option.elim_some, Option.getD_some, pure_eq_ok]

theorem vdpnlSetlink_of_not_passes (hnl : nl.Lawful)
    (h : ∀ tb, m.table nl = some tb → ¬Passes nl names m tb) :
    vdpnlSetlink nl names m = .ok none := by
  unfold vdpnlSetlink vdpnlSet
  rw [nlmsgParse_into hnl, bind_ok]
  cases htb : m.table nl with
  | none => rfl
  | some tb =>
    dsimp only
    cases hname : setIfname names m tb with
    | none => rfl
    | some name =>
      dsimp only
      cases hinfos : tb iflaVfinfoList with
      | none => rfl
      | some infos =>
        rw [vdpnlVfinfolist, nlaForEach_eq (vfinfoPass_eq hnl), bind_ok]
        by_cases hi : ∀ a ∈ nl.attrs infos, InfoOk nl a
        swap
        · rw [if_neg hi]
          rfl
        rw [if_pos hi]
        dsimp only
        cases hports : tb iflaVfPorts with
        | none => rfl
        | some ports =>
          rw [vdpnlVfports, nlaForEach_eq (vfportPass_eq hnl), bind_ok]
          have hp : ¬∀ a ∈ nl.attrs ports, PortOk nl a := by
            intro hp
            refine h tb htb ⟨by rw [hname]; rfl, by rw [hinfos]; rfl, ?_, by rw [hports]; rfl, ?_⟩
            · rwa [vfInfos, hinfos]
            · rwa [vfPortAttrs, hports]
          rw [if_neg hp]
          rfl

end Set

/-! ### What is left -/

section Left

variable {nl : Libnl} {vsi : VdpnlVsi} {a : Nlattr} {e : VdpnlMac}

theorem fillVfport_pairs (tb3 : NlaTable) (vsi : VdpnlVsi) :
    (fillVfport tb3 vsi).pairs = vsi.pairs := by
  unfold fillVfport
  cases tb3 iflaPortVsiType <;> cases tb3 iflaPortInstanceUuid <;> cases tb3 iflaPortRequest <;>
    cases tb3 iflaPortResponse <;> rfl

theorem foldl_portStep_pairs (attrs : List Nlattr) (vsi : VdpnlVsi) :
    (attrs.foldl (portStep nl) vsi).pairs = vsi.pairs := by
  induction attrs generalizing vsi with
  | nil => rfl
  | cons a attrs ih =>
    rw [List.foldl_cons, ih]
    unfold portStep
    split
    · cases portTable nl a with
      | none => rfl
      | some tb3 => exact fillVfport_pairs tb3 vsi
    · rfl

theorem foldl_portStep_filter (attrs : List Nlattr) (vsi : VdpnlVsi) :
    attrs.foldl (portStep nl) vsi =
      (attrs.filter fun a => a.type = iflaVfPort).foldl (portStep nl) vsi := by
  induction attrs generalizing vsi with
  | nil => rfl
  | cons a attrs ih =>
    rw [List.foldl_cons, ih, List.filter_cons]
    split
    · rfl
    · next hother =>
      rw [portStep, if_neg (by simpa using hother)]

theorem portTaken_fillVfport {tb3 : NlaTable}
    (huuid : (tb3 iflaPortInstanceUuid).isSome = true)
    (hrequest : (tb3 iflaPortRequest).isSome = true) (vsi : VdpnlVsi) :
    PortTaken tb3 (fillVfport tb3 vsi) := by
  obtain ⟨uuid, huuid⟩ := Option.isSome_iff_exists.mp huuid
  obtain ⟨request, hrequest⟩ := Option.isSome_iff_exists.mp hrequest
  unfold fillVfport
  simp only [huuid, hrequest]
  refine ⟨⟨uuid, huuid, ?_⟩, ⟨request, hrequest, ?_⟩, fun pvsi hpvsi => ?_⟩
  · cases tb3 iflaPortVsiType <;> cases tb3 iflaPortResponse <;> rfl
  · cases tb3 iflaPortVsiType <;> cases tb3 iflaPortResponse <;> rfl
  · rw [hpvsi]
    cases tb3 iflaPortResponse <;> exact ⟨rfl, rfl, rfl⟩

theorem infoStep_pairs {p : Option MacAddr × Nat} (hp : pairOf nl a = some p)
    (he : vsi.maclist = [e]) :
    (infoStep nl vsi a).pairs = [some (p.1, p.2 % 2 ^ 16)] := by
  obtain ⟨vf, hvf, hp⟩ := Option.bind_eq_some_iff.mp hp
  obtain ⟨vlan, hvlan, rfl⟩ := Option.map_eq_some_iff.mp hp
  cases hmac : vf iflaVfMac <;>
    simp [infoStep, hvf, fillVfinfo, hvlan, hmac, VdpnlVsi.pairs, takeMac, takeVlan,
      VdpnlVsi.onMac, he, vdp22FfmtMacvid, vdp22FfmtVid]

theorem length_infoStep (vsi : VdpnlVsi) (a : Nlattr) :
    (infoStep nl vsi a).maclist.length = vsi.maclist.length := by
  unfold infoStep
  cases vfTable nl a with
  | none => rfl
  | some vf =>
    show (fillVfinfo vf vsi).maclist.length = _
    unfold fillVfinfo
    cases vf iflaVfMac <;> cases vf iflaVfVlan <;> simp [takeMac, takeVlan, VdpnlVsi.onMac]

theorem length_foldl_infoStep (attrs : List Nlattr) (vsi : VdpnlVsi) :
    (attrs.foldl (infoStep nl) vsi).maclist.length = vsi.maclist.length := by
  induction attrs generalizing vsi with
  | nil => rfl
  | cons a attrs ih => rw [List.foldl_cons, ih, length_infoStep]

end Left

section Whole

variable {nl : Libnl} {names : Nat → Option Bytes} {m : Nlmsg} {tb : NlaTable}

/-- The VSI of a message that passes the checks is whole exactly when the message has one filter
entry and one port. -/
theorem takenOver_iff (h : Passes nl names m tb) :
    TakenOver nl tb (madeOf nl names m tb).vsi ↔ Single nl tb := by
  have hpairs : (madeOf nl names m tb).vsi.pairs = ((vfInfos nl tb).foldl (infoStep nl)
      { vsiIdfmt := vdp22IdUuid, maclist := [{}], reqPid := m.pid, reqSeq := m.seq }).pairs :=
    foldl_portStep_pairs _ _
  -- there is one pair, and only one
  have hlength : (madeOf nl names m tb).vsi.pairs.length = 1 := by
    rw [hpairs, VdpnlVsi.pairs, List.length_map, length_foldl_infoStep]
    rfl
  have hone : ∀ a p, vfInfos nl tb = [a] → pairOf nl a = some p →
      (madeOf nl names m tb).vsi.pairs = [some (p.1, p.2 % 2 ^ 16)] := by
    intro a p ha hp
    rw [hpairs, ha]
    exact infoStep_pairs hp rfl
  constructor
  · intro ht
    refine ⟨?_, ?_⟩
    · have hlen := congrArg List.length ht.pairs
      rw [hlength, List.length_map] at hlen
      obtain ⟨a, ha⟩ := List.length_eq_one_iff.mp hlen.symm
      have hok := h.infos a (by rw [ha]; exact List.mem_singleton_self a)
      obtain ⟨p, hp⟩ := Option.isSome_iff_exists.mp hok.2
      have hsame := ht.pairs
      rw [hone a p ha hp, ha, List.map_singleton, hp] at hsame
      have hcut : p.2 % 2 ^ 16 = p.2 := by
        have := Option.some.inj (List.singleton_inj.mp hsame)
        exact congrArg Prod.snd this
      exact ⟨a, p, ha, hp, by omega⟩
    · obtain ⟨a, tb3, ha, htable, htaken⟩ := ht.port
      obtain ⟨uuid, huuid, -⟩ := htaken.uuid
      obtain ⟨request, hrequest, -⟩ := htaken.request
      exact ⟨a, tb3, ha, htable, by rw [huuid]; rfl, by rw [hrequest]; rfl⟩
  · rintro ⟨⟨a, p, ha, hp, hlt⟩, ⟨b, tb3, hb, htable, huuid, hrequest⟩⟩
    refine ⟨by rw [ha]; exact List.cons_ne_nil _ _, ?_, ⟨b, tb3, hb, htable, ?_⟩⟩
    · rw [hone a p ha hp, ha, List.map_singleton, hp, Nat.mod_eq_of_lt hlt]
    · have hport : b.type = iflaVfPort := by
        have hmem : b ∈ vfPorts nl tb := by
          rw [hb]
          exact List.mem_singleton_self b
        simpa using (List.mem_filter.mp hmem).2
      unfold madeOf
      rw [foldl_portStep_filter]
      show PortTaken tb3 ((vfPorts nl tb).foldl (portStep nl) _)
      rw [hb, List.foldl_cons, List.foldl_nil, portStep, if_pos hport, htable]
      exact portTaken_fillVfport huuid hrequest _

/-- A message is refused or taken over whole exactly when it is a SETLINK message that has one
filter entry and one port, if it passes the checks. -/
theorem takenWhole_iff (hnl : nl.Lawful) (names : Nat → Option Bytes) (m : Nlmsg) :
    TakenWhole nl names m ↔ SingleIfPasses nl names m := by
  unfold TakenWhole SingleIfPasses
  cases m.type with
  | other => exact Iff.rfl
  | getlink =>
    refine iff_of_false ?_ id
    rintro ⟨r, hr⟩
    -- one more entry is written than the table has
    have hbehind := ((hnl.nlaParse (iflaMax + 1) pcMax (m.payload.drop sizeofIfinfomsg)).1
      (iflaMax + 1)).mpr (Nat.le_refl _)
    have hout : (nl.nlaParse (iflaMax + 1) pcMax (m.payload.drop sizeofIfinfomsg)).into (iflaMax + 1)
        = .error .outOfBounds := by
      refine if_neg fun hall => ?_
      have hlt := List.all_eq_true.mp hall _ hbehind
      simp at hlt
    rw [vdpnlGet, hout] at hr
    cases hr
  | setlink =>
    constructor
    · rintro ⟨r, hr, hwhole⟩ tb htb hpass
      rw [vdpnlSetlink_of_passes hnl htb hpass] at hr
      obtain ⟨tb', htb', htaken⟩ := hwhole _ (Except.ok.inj hr).symm
      cases htb.symm.trans htb'
      exact (takenOver_iff hpass).mp htaken
    · intro h
      by_cases hpass : ∃ tb, m.table nl = some tb ∧ Passes nl names m tb
      · obtain ⟨tb, htb, hpass⟩ := hpass
        refine ⟨_, vdpnlSetlink_of_passes hnl htb hpass, ?_⟩
        rintro q ⟨⟩
        exact ⟨tb, htb, (takenOver_iff hpass).mpr (h tb htb hpass)⟩
      · refine ⟨none, vdpnlSetlink_of_not_passes hnl fun tb htb hp => hpass ⟨tb, htb, hp⟩, ?_⟩
        intro q hq
        cases hq

end Whole

/-! ### Messages in bytes -/

/-- Attributes in bytes: each starts at a multiple of four bytes, and the first one that does not
fit ends them. -/
def byteAttrs : Nat → Bytes → List Nlattr
  | 0, _ => []
  | fuel + 1, b =>
    let len := leNat b 0 2
    if b.length < 4 ∨ len < 4 ∨ b.length < len then []
    else
      { type := leNat b 2 2 % 2 ^ 14, payload := (b.take len).drop 4 } ::
        byteAttrs fuel (b.drop ((len + 3) / 4 * 4))

def byteAdmits (pt : NlaPolicy) (payload : Bytes) : Bool :=
  pt.least ≤ payload.length && (pt.maxlen = 0 || payload.length ≤ pt.maxlen) &&
    (pt.type ≠ .string || payload.getLast? = some 0)

/-- The last attribute of each type, if all meet the policies -/
def byteParse (max : Nat) (policy : Nat → NlaPolicy) (b : Bytes) : NlaParsed where
  written := List.range (max + 1)
  table :=
    let known := (byteAttrs b.length b).filter fun a => a.type ≤ max
    if known.all fun a => byteAdmits (policy a.type) a.payload then
      some fun type => ((known.filter fun a => a.type = type).getLast?).map (·.payload)
    else none

/-- Functions that read a message in bytes -/
def byteNl : Libnl where
  attrs b := byteAttrs b.length b
  nlaParse := byteParse
  nlmsgParse hdrlen max policy m :=
    if m.payload.length < hdrlen then { written := [], table := none }
    else byteParse max policy (m.payload.drop hdrlen)
  nlaStrlcpy b size := (b.takeWhile (· ≠ 0)).take (size - 1)

theorem byteParse_fills (max : Nat) (policy : Nat → NlaPolicy) (b : Bytes) :
    (byteParse max policy b).Fills max policy := by
  refine ⟨fun i => ?_, fun tb htb i payload hi => ?_⟩
  · show i ∈ List.range (max + 1) ↔ _
    rw [List.mem_range]
    omega
  · unfold byteParse at htb
    dsimp only at htb
    split at htb
    · next hall =>
      cases htb
      obtain ⟨a, ha, rfl⟩ := Option.map_eq_some_iff.mp hi
      obtain ⟨hknown, htype⟩ := List.mem_filter.mp (List.mem_of_getLast? ha)
      have hadmits := List.all_eq_true.mp hall a hknown
      rw [of_decide_eq_true htype] at hadmits
      simp only [byteAdmits, Bool.and_eq_true, decide_eq_true_eq] at hadmits
      exact hadmits.1.1
    · cases htb

theorem byteNl_lawful : byteNl.Lawful where
  nlaParse := byteParse_fills
  nlmsgParse max policy hlen := by
    dsimp only [byteNl]
    rw [if_neg (Nat.not_lt.mpr hlen)]
    exact byteParse_fills _ _ _
  nlmsgShort _ _ hlen := if_pos hlen

/-- An attribute in its bytes, of a length that is a multiple of four -/
def nlaBytes (type : UInt8) (payload : Bytes) : Bytes :=
  [UInt8.ofNat (payload.length + 4), 0, type, 0] ++ payload

/-- A filter entry with a MAC address and a VLAN -/
def pairBytes (mac vlan : UInt8) : Bytes :=
  nlaBytes 1 (nlaBytes 1 ([0, 0, 0, 0, 2, 0, 0, 0, 0, mac] ++ List.replicate 26 0) ++
    nlaBytes 2 [0, 0, 0, 0, vlan, 0, 0, 0, 0, 0, 0, 0])

/-- Filter entries, and a port with an UUID and a request -/
def pairsMsg (pairs : Bytes) : Nlmsg where
  type := .setlink
  pid := 100
  seq := 1
  payload := [0, 0, 0, 0, 3, 0, 0, 0, 0, 0, 0, 0, 0, 0, 0, 0] ++ nlaBytes 3 [101, 109, 49, 0] ++
    nlaBytes 22 pairs ++
    nlaBytes 24 (nlaBytes 1 (nlaBytes 4 (List.replicate 16 7) ++ [5, 0, 6, 0, 3, 0, 0, 0]))

/-- One pair is taken over whole. -/
theorem onePair_takenWhole :
    TakenWhole byteNl (fun _ : Nat => none) (pairsMsg (pairBytes 1 10)) := by
  refine (takenWhole_iff byteNl_lawful _ _).mpr fun tb htb _ => ?_
  have hread : ((pairsMsg (pairBytes 1 10)).table byteNl).map (fun tb =>
      ((vfInfos byteNl tb).map (pairOf byteNl),
        (vfPorts byteNl tb).map fun a => (portTable byteNl a).map fun tb3 =>
          ((tb3 iflaPortInstanceUuid).isSome, (tb3 iflaPortRequest).isSome)))
      = some ([some (some (macAt [2, 0, 0, 0, 0, 1] 0), 10)], [some (true, true)]) := by
    decide +kernel
  rw [htb] at hread
  obtain ⟨hinfos, hports⟩ := Prod.mk.inj (Option.some.inj hread)
  obtain ⟨a, ha, hpair⟩ := List.map_eq_singleton_iff.mp hinfos
  obtain ⟨b, hb, hport⟩ := List.map_eq_singleton_iff.mp hports
  obtain ⟨tb3, htable, hboth⟩ := Option.map_eq_some_iff.mp hport
  obtain ⟨huuid, hrequest⟩ := Prod.mk.inj hboth
  exact ⟨⟨a, _, ha, hpair, by decide⟩, ⟨b, tb3, hb, htable, huuid, hrequest⟩⟩

/-- Of two pairs, the last one is handed over. -/
theorem not_takenWhole :
    ¬TakenWhole byteNl (fun _ : Nat => none) (pairsMsg (pairBytes 1 10 ++ pairBytes 2 20)) := by
  rintro ⟨r, hr, hwhole⟩
  have hone : (vdpnlSetlink byteNl (fun _ => none)
      (pairsMsg (pairBytes 1 10 ++ pairBytes 2 20))).map
        (Option.map fun q => q.vsi.maclist.length) = .ok (some 1) := by decide +kernel
  have htwo : (((pairsMsg (pairBytes 1 10 ++ pairBytes 2 20)).table byteNl).map fun tb =>
      (vfInfos byteNl tb).length) = some 2 := by
    decide +kernel
  rw [hr] at hone
  obtain ⟨q, hq, hlen⟩ := Option.map_eq_some_iff.mp (Except.ok.inj hone)
  obtain ⟨tb, htb, htaken⟩ := hwhole q hq
  rw [htb] at htwo
  have htwo : (vfInfos byteNl tb).length = 2 := Option.some.inj htwo
  have hpairs := congrArg List.length htaken.pairs
  rw [VdpnlVsi.pairs, List.length_map, List.length_map, hlen, htwo] at hpairs
  cases hpairs

end Lldpad.Qbg
