import Lldpad.Proofs.Lldp.FailedBuild
import Lldpad.Proofs.Lldp.MandBytes

/-!
# `Lldpad.Proofs.Lldp.Mandatory`: the mandatory TLVs of a frame

`mandatory_iff` says for every list of events of the mandatory module which builds make a frame
that starts with a chassis ID, a port ID and a time to live, or no frame at all
(`InfoCarries`, `ShutdownCarries`), whatever the other modules add. `MandatoryOk` is the condition
of one build. It fails

* without data: `mand_ifup` removes them when the chassis ID cannot be built, and a frame is sent
  all the same;
* when what is kept, or what the shared memory has, is no identifier;
* when a network address is asked for and there is none: a length of -1 passes the test for an
  error, and an IPv6 address is taken from the stack;
* without a valid MAC address.
-/

namespace Lldpad.Mand

open Lldpad.Lib
open Lldpad.Lldp (Bytes AgentType LldpAgent LldpModule Ctx ethHeader gettlvAll suppliedTlvs setFrameout mibConstrInfoLLDPDU mibConstrShutdownLLDPDU ethDataLen)
open Lldpad.Tlv (htons packHeader)

/-! ### What a build has -/

/-- The identifier that a build has: what is kept, else what the shared memory has, else one from
scratch -/
def usedInfo (rebuild : Bool) (kept : Option Ident) (record : Option Bytes)
    (scratch : Option Ident) : Option Bytes :=
  if rebuild = false ∧ kept.isSome then kept.map (·.info)
  else
    match record with
    | some record => some record
    | none => scratch.map (·.info)

def chassisInfo (type : AgentType) (l : Lookups) (d : MandData) : Option Bytes :=
  usedInfo d.rebuildChassis d.chassis (shmMsap type d l.shmChassis) (chassisFromScratch l d.ifname)

def portidInfo (type : AgentType) (l : Lookups) (d : MandData) : Option Bytes :=
  usedInfo d.rebuildPortid d.portid (shmMsap type d l.shmPortid)
    (some (portidFromScratch l d.ifname))

variable {d : MandData} {type : AgentType} {l : Lookups} {md : Option MandData}
  {ptlv : Option Bytes}

variable {md' : Option MandData} {txTTL : Nat} {frame info b : Bytes} {sub : UInt8}

/-- A record of the shared memory fits its struct, or it is written behind it. -/
theorem msapIdent_cases {shm : Bytes} (h : shmMsap type d shm = some info) :
    (∃ id : Ident, id.info = info ∧ msapIdent info = .ok id) ∨
      sizeofInfo < info.length ∧ msapIdent info = .error .outOfBounds := by
  have hpos : 0 < info.length := by
    unfold shmMsap at h
    split at h
    · next hcond =>
      cases h
      exact List.length_pos_iff.mpr hcond.2.2
    · cases h
  rcases Nat.lt_or_ge sizeofInfo info.length with hgt | hle
  · exact .inr ⟨hgt, dif_neg fun h => Nat.not_le.mpr hgt h.2⟩
  · exact .inl ⟨⟨info, hpos, hle⟩, rfl, dif_pos ⟨hpos, hle⟩⟩

theorem mandBldChassisTlv_eq (type : AgentType) (l : Lookups) (d : MandData) :
    (chassisInfo type l d = none ∧ mandBldChassisTlv type l d =
      .ok ({ d with chassis := none, rebuildChassis := true }, false)) ∨
    (∃ id : Ident, chassisInfo type l d = some id.info ∧ mandBldChassisTlv type l d =
      .ok ({ d with chassis := some id, rebuildChassis := false }, true)) ∨
    (∃ info, chassisInfo type l d = some info ∧ sizeofInfo < info.length ∧
      mandBldChassisTlv type l d = .error .outOfBounds) := by
  unfold chassisInfo usedInfo mandBldChassisTlv
  by_cases hkept : d.rebuildChassis = false ∧ d.chassis.isSome
  · obtain ⟨hrebuild, hsome⟩ := hkept
    obtain ⟨id, hid⟩ := Option.isSome_iff_exists.mp hsome
    refine .inr (.inl ⟨id, ?_, ?_⟩)
    · rw [if_pos ⟨hrebuild, hsome⟩, hid]
      rfl
    · rw [if_pos ⟨hrebuild, hsome⟩, ← hid, ← hrebuild]
  · rw [if_neg hkept, if_neg hkept]
    cases hshm : shmMsap type d l.shmChassis with
    | some record =>
      dsimp only
      rcases msapIdent_cases hshm with ⟨id, rfl, hid⟩ | ⟨hgt, hid⟩
      · exact .inr (.inl ⟨id, rfl, by rw [hid]; rfl⟩)
      · exact .inr (.inr ⟨record, rfl, hgt, by rw [hid]; rfl⟩)
    | none =>
      cases chassisFromScratch l d.ifname with
      | none => exact .inl ⟨rfl, rfl⟩
      | some id => exact .inr (.inl ⟨id, rfl, rfl⟩)

theorem mandBldPortidTlv_eq (type : AgentType) (l : Lookups) (d : MandData) :
    (∃ id : Ident, portidInfo type l d = some id.info ∧ mandBldPortidTlv type l d =
      .ok { d with portid := some id, rebuildPortid := false }) ∨
    (∃ info, portidInfo type l d = some info ∧ sizeofInfo < info.length ∧
      mandBldPortidTlv type l d = .error .outOfBounds) := by
  unfold portidInfo usedInfo mandBldPortidTlv
  by_cases hkept : d.rebuildPortid = false ∧ d.portid.isSome
  · obtain ⟨hrebuild, hsome⟩ := hkept
    obtain ⟨id, hid⟩ := Option.isSome_iff_exists.mp hsome
    refine .inl ⟨id, ?_, ?_⟩
    · rw [if_pos ⟨hrebuild, hsome⟩, hid]
      rfl
    · rw [if_pos ⟨hrebuild, hsome⟩, ← hid, ← hrebuild]
  · rw [if_neg hkept, if_neg hkept]
    cases hshm : shmMsap type d l.shmPortid with
    | some record =>
      dsimp only
      rcases msapIdent_cases hshm with ⟨id, rfl, hid⟩ | ⟨hgt, hid⟩
      · exact .inl ⟨id, rfl, by rw [hid]; rfl⟩
      · exact .inr ⟨record, rfl, hgt, by rw [hid]; rfl⟩
    | none => exact .inl ⟨_, rfl, rfl⟩

/-- Where the identifier of a build comes from: what is kept or recorded is `valid`, or it is made
from scratch, and `scratch` holds. -/
def IdentFrom (rebuild : Bool) (kept : Option Ident) (record : Option Bytes)
    (valid : Bytes → Prop) (scratch : Prop) : Prop :=
  if rebuild = false ∧ kept.isSome then ∀ id, kept = some id → valid id.info
  else
    match record with
    | some record => valid record
    | none => scratch

theorem identFrom_iff (rebuild : Bool) (kept : Option Ident) (record : Option Bytes)
    (valid : Bytes → Prop) (scratch : Option Ident) :
    ((∃ info, usedInfo rebuild kept record scratch = some info ∧ valid info) ↔
        IdentFrom rebuild kept record valid (∃ id, scratch = some id ∧ valid id.info)) ∧
      ((∀ info, usedInfo rebuild kept record scratch = some info → valid info) ↔
        IdentFrom rebuild kept record valid (∀ id, scratch = some id → valid id.info)) := by
  unfold usedInfo IdentFrom
  by_cases hkept : rebuild = false ∧ kept.isSome
  · obtain ⟨id, hid⟩ := Option.isSome_iff_exists.mp hkept.2
    simp [hkept, hid]
  · simp only [if_neg hkept]
    cases record <;> simp

theorem IdentFrom.congr {rebuild : Bool} {kept : Option Ident} {record : Option Bytes}
    {valid : Bytes → Prop} {scratch scratch' : Prop} (h : scratch ↔ scratch') :
    IdentFrom rebuild kept record valid scratch ↔ IdentFrom rebuild kept record valid scratch' := by
  rw [propext h]

/-! ### The identifiers from scratch -/

/-- The configuration asks for a network address. -/
def AsksIp (l : Lookups) : Prop :=
  if l.medTx = false then l.chassisSubtype = 5
  else l.devtype = 1 ∨ l.devtype = 2 ∨ l.devtype = 3

/-- The interface has one. -/
def HasIp (l : Lookups) : Prop := l.ipaddr ≠ none ∨ ∃ ip, l.ifaddrs = some (some ip)

/-- What stands for it otherwise -/
def fallbackId (l : Lookups) (ifname : IfName) : Ident :=
  if l.medTx = false then macId chassisIdMacAddress l.mac
  else ifnameId chassisIdInterfaceName ifname

/-- The chassis ID that is made from scratch is valid, and falls back where it has to. -/
def ScratchOk (l : Lookups) : Prop :=
  (AsksIp l → HasIp l) ∧
    (¬ AsksIp l → l.medTx = false → l.chassisSubtype ≠ 6 → isValidMac l.mac = true)

theorem validId_ifnameId (h : 1 ≤ sub ∧ sub ≤ 7) (ifname : IfName) :
    ValidId (ifnameId sub ifname).info where
  subtype := h
  length := Nat.succ_le_succ ifname.pos
  le := (ifnameId sub ifname).le

theorem validId_macId_iff (sub : UInt8) (mac : Vector UInt8 6) :
    ValidId (macId sub mac).info ↔ 1 ≤ sub ∧ sub ≤ 7 := by
  refine ⟨fun h => h.subtype, fun h => ⟨h, ?_, (macId sub mac).le⟩⟩
  unfold macId
  simp

theorem validId_ipv4Id (h : 1 ≤ sub ∧ sub ≤ 7) (ip : Vector UInt8 4) :
    ValidId (ipv4Id sub ip).info where
  subtype := h
  length := by unfold ipv4Id; simp
  le := (ipv4Id sub ip).le

theorem validId_ipv6Id (h : 1 ≤ sub ∧ sub ≤ 7) (ip : Vector UInt8 16) :
    ValidId (ipv6Id sub ip).info where
  subtype := h
  length := by unfold ipv6Id; simp
  le := (ipv6Id sub ip).le

theorem validId_portidFromScratch (l : Lookups) (ifname : IfName) :
    ValidId (portidFromScratch l ifname).info := by
  have hname : ValidId (ifnameId portIdInterfaceName ifname).info :=
    validId_ifnameId (by decide) ifname
  unfold portidFromScratch
  dsimp only
  generalize (if devtypeDefined l.devtype = true ∧ l.medTx = true then 3 else l.portidSubtype) =
    subtype
  split_ifs
  · exact hname
  · split
    · exact validId_ipv4Id (by decide) _
    · exact validId_ipv6Id (by decide) _
    · exact hname
  · exact (validId_macId_iff _ _).mpr (by decide)
  · split
    · exact validId_ipv4Id (by decide) _
    · exact validId_ipv6Id (by decide) _
    · exact hname

/-- What `mand_bld_ip_chassis` leads to: an address, also one that the interface has not, or, when
there is none, no chassis ID at all. -/
theorem ipChassisOr_eq (l : Lookups) (other : Ident) :
    ipChassisOr l other =
      match l.ipaddr, getIpaddr6 l with
      | some ip, _ => some (ipv4Id chassisIdNetworkAddress ip)
      | none, some ip => some (ipv6Id chassisIdNetworkAddress ip)
      | none, none => none := by
  unfold ipChassisOr mandBldIpChassis
  cases l.ipaddr with
  | some ip => rfl
  | none =>
    cases getIpaddr6 l with
    | some ip => rfl
    -- -1 is a large length
    | none => rfl

theorem info_ne_of_subtype {a : Bytes} (h : a.getD 0 0 ≠ b.getD 0 0) : a ≠ b :=
  fun heq => h (heq ▸ rfl)

theorem asked_iff (l : Lookups) (ifname : IfName) (other : Ident) :
    (∃ id, ipChassisOr l other = some id ∧ ValidId id.info ∧
      (¬ HasIp l → id.info = (fallbackId l ifname).info)) ↔ HasIp l := by
  have hfallback : (fallbackId l ifname).info.getD 0 0 ≠ chassisIdNetworkAddress := by
    unfold fallbackId
    split
    · exact show chassisIdMacAddress ≠ chassisIdNetworkAddress by decide
    · exact show chassisIdInterfaceName ≠ chassisIdNetworkAddress by decide
  rw [ipChassisOr_eq]
  unfold HasIp
  cases hip : l.ipaddr with
  | some ip =>
    refine iff_of_true ⟨_, rfl, validId_ipv4Id (by decide) ip, fun h => ?_⟩ (.inl nofun)
    exact absurd (.inl nofun) h
  | none =>
    unfold getIpaddr6
    cases hifaddrs : l.ifaddrs with
    | none =>
      refine iff_of_false ?_ ?_
      · rintro ⟨id, hid, _⟩
        cases hid
      · rintro (h | ⟨ip, h⟩)
        · exact h rfl
        · cases h
    | some found =>
      cases found with
      | some ip =>
        refine iff_of_true ⟨_, rfl, validId_ipv6Id (by decide) ip, fun h => ?_⟩ (.inr ⟨ip, rfl⟩)
        exact absurd (.inr ⟨ip, rfl⟩) h
      | none =>
        -- the address is what was on the stack
        refine iff_of_false ?_ ?_
        · rintro ⟨id, hid, _, hfall⟩
          cases hid
          refine info_ne_of_subtype (fun h => hfallback h.symm) (hfall ?_)
          rintro (h | ⟨ip, h⟩)
          · exact h rfl
          · cases h
        · rintro (h | ⟨ip, h⟩)
          · exact h rfl
          · cases h

theorem scratch_iff (l : Lookups) (ifname : IfName) :
    (∃ id, chassisFromScratch l ifname = some id ∧ ValidId id.info ∧
      (AsksIp l → ¬ HasIp l → id.info = (fallbackId l ifname).info)) ↔ ScratchOk l := by
  unfold ScratchOk
  by_cases hasks : AsksIp l
  · have hchassis : ∃ other, chassisFromScratch l ifname = ipChassisOr l other := by
      unfold AsksIp at hasks
      unfold chassisFromScratch
      split at hasks
      · next hmed => exact ⟨_, by rw [if_pos hmed, if_neg (by omega), if_pos hasks]⟩
      · next hmed => exact ⟨_, by rw [if_neg hmed, if_pos hasks]⟩
    obtain ⟨other, hother⟩ := hchassis
    rw [hother]
    simp only [hasks, true_implies, not_true, false_implies, and_true]
    exact asked_iff l ifname other
  · simp only [hasks, false_implies, not_false_iff, true_implies, true_and, and_true]
    unfold AsksIp at hasks
    unfold chassisFromScratch
    have hname : ValidId (mandBldIfnameChassis ifname).info := validId_ifnameId (by decide) ifname
    split at hasks
    · next hmed =>
      rw [if_pos hmed]
      by_cases hsix : l.chassisSubtype = 6
      · rw [if_pos hsix]
        exact iff_of_true ⟨_, rfl, hname⟩ fun _ h => absurd hsix h
      · rw [if_neg hsix, if_neg hasks]
        have hmac : ValidId (mandBldMacChassis l).info ↔ isValidMac l.mac = true := by
          unfold mandBldMacChassis
          rw [validId_macId_iff]
          cases isValidMac l.mac
          · exact iff_of_false (by decide) nofun
          · exact iff_of_true (by decide) rfl
        constructor
        · rintro ⟨id, hid, hvalid⟩ _ _
          cases hid
          exact hmac.mp hvalid
        · intro h
          exact ⟨_, rfl, hmac.mpr (h hmed hsix)⟩
    · next hmed =>
      rw [if_neg hmed, if_neg hasks]
      exact iff_of_true ⟨_, rfl, hname⟩ fun h => absurd h hmed

/-! ### One build -/

/-- The chassis ID and the port ID that a build has are valid. -/
def ChassisOk (type : AgentType) (l : Lookups) (d : MandData) : Prop :=
  IdentFrom d.rebuildChassis d.chassis (shmMsap type d l.shmChassis) ValidId (ScratchOk l)

def PortidOk (type : AgentType) (l : Lookups) (d : MandData) : Prop :=
  IdentFrom d.rebuildPortid d.portid (shmMsap type d l.shmPortid) ValidId True

/-- No record of the shared memory that the build reads is larger than its struct. The port ID is
only looked for behind a chassis ID. -/
def RecordsFit (type : AgentType) (l : Lookups) (d : MandData) : Prop :=
  l.port = true →
    IdentFrom d.rebuildChassis d.chassis (shmMsap type d l.shmChassis)
      (fun info => info.length ≤ sizeofInfo) True ∧
    (IdentFrom d.rebuildChassis d.chassis (shmMsap type d l.shmChassis) (fun _ => True)
        ((chassisFromScratch l d.ifname).isSome = true) →
      IdentFrom d.rebuildPortid d.portid (shmMsap type d l.shmPortid)
        (fun info => info.length ≤ sizeofInfo) True)

/-- The chassis ID is made from scratch: nothing is kept and nothing recorded. -/
def FromScratch (type : AgentType) (l : Lookups) (d : MandData) : Prop :=
  ¬ (d.rebuildChassis = false ∧ d.chassis.isSome) ∧ shmMsap type d l.shmChassis = none

/-- A chassis ID that is made from scratch falls back when the network address that it asks for
is missing. -/
def FallsBack (type : AgentType) (l : Lookups) (md : Option MandData) (chassis : Bytes) : Prop :=
  ∀ d, md = some d → l.port = true → FromScratch type l d → AsksIp l → ¬ HasIp l →
    chassis = (fallbackId l d.ifname).info

theorem chassisOk_iff (hport : l.port = true) :
    (∃ info, chassisInfo type l d = some info ∧ ValidId info ∧ FallsBack type l (some d) info) ↔
      ChassisOk type l d := by
  have hfalls : ∀ info, FallsBack type l (some d) info ↔
      (FromScratch type l d → AsksIp l → ¬ HasIp l → info = (fallbackId l d.ifname).info) := by
    intro info
    constructor
    · exact fun h => h d rfl hport
    · rintro h d' hd' -
      cases hd'
      exact h
  unfold chassisInfo ChassisOk
  simp only [hfalls]
  by_cases hscratch : FromScratch type l d
  · obtain ⟨hkept, hshm⟩ := hscratch
    have hfrom : FromScratch type l d := ⟨hkept, hshm⟩
    unfold usedInfo IdentFrom
    simp only [if_neg hkept, hshm, Option.map_eq_some_iff, hfrom, true_implies]
    rw [← scratch_iff l d.ifname]
    constructor
    · rintro ⟨_, ⟨id, hid, rfl⟩, h⟩
      exact ⟨id, hid, h⟩
    · rintro ⟨id, hid, h⟩
      exact ⟨id.info, ⟨id, hid, rfl⟩, h⟩
  · simp only [hscratch, false_implies, and_true]
    rw [(identFrom_iff ..).1]
    unfold IdentFrom
    -- nothing is from scratch, so what holds of that does not matter
    by_cases hkept : d.rebuildChassis = false ∧ d.chassis.isSome
    · rw [if_pos hkept, if_pos hkept]
    · rw [if_neg hkept, if_neg hkept]
      cases hshm : shmMsap type d l.shmChassis with
      | none => exact absurd ⟨hkept, hshm⟩ hscratch
      | some record => exact Iff.rfl

theorem portidOk_iff :
    (∃ info, portidInfo type l d = some info ∧ ValidId info) ↔ PortidOk type l d := by
  unfold portidInfo PortidOk
  rw [(identFrom_iff ..).1]
  exact IdentFrom.congr (iff_of_true ⟨_, rfl, validId_portidFromScratch l d.ifname⟩ trivial)

/-- The data after a build with both identifiers -/
def MandData.built (d : MandData) (txTTL : Nat) (chassis portid : Ident) : MandData :=
  { d with
    chassis := some chassis, portid := some portid, ttl := some (UInt16.ofNat txTTL)
    rebuildChassis := false, rebuildPortid := false }

theorem full_built (d : MandData) (txTTL : Nat) (chassis portid : Ident) :
    (d.built txTTL chassis portid).Full chassis portid (UInt16.ofNat txTTL) := ⟨rfl, rfl, rfl⟩

theorem mandBldTlv_eq (type : AgentType) (txTTL : Nat) (hport : l.port = true) (d : MandData) :
    (chassisInfo type l d = none ∧ mandBldTlv type txTTL l d =
      .ok ({ d with chassis := none, rebuildChassis := true }, false)) ∨
    (∃ chassis portid : Ident, chassisInfo type l d = some chassis.info ∧
      portidInfo type l d = some portid.info ∧
      mandBldTlv type txTTL l d = .ok (d.built txTTL chassis portid, true)) ∨
    ((∃ info, chassisInfo type l d = some info ∧
        (sizeofInfo < info.length ∨
          ∃ info, portidInfo type l d = some info ∧ sizeofInfo < info.length)) ∧
      mandBldTlv type txTTL l d = .error .outOfBounds) := by
  have hport' : ¬l.port = false := by simp [hport]
  unfold mandBldTlv
  simp only [if_neg hport']
  rcases mandBldChassisTlv_eq type l d with ⟨hinfo, hc⟩ | ⟨chassis, hinfo, hc⟩ |
    ⟨info, hinfo, hgt, hc⟩
  · exact .inl ⟨hinfo, by rw [hc]; rfl⟩
  · have hsame : portidInfo type l { d with chassis := some chassis, rebuildChassis := false } =
        portidInfo type l d := rfl
    rcases mandBldPortidTlv_eq type l { d with chassis := some chassis, rebuildChassis := false }
      with ⟨portid, hpinfo, hp⟩ | ⟨info, hpinfo, hgt, hp⟩
    · refine .inr (.inl ⟨chassis, portid, hinfo, hsame ▸ hpinfo, ?_⟩)
      rw [hc, bind_ok]
      rw [if_neg (by simp), hp]
      rfl
    · refine .inr (.inr ⟨⟨_, hinfo, .inr ⟨info, hsame ▸ hpinfo, hgt⟩⟩, ?_⟩)
      rw [hc, bind_ok]
      rw [if_neg (by simp), hp]
      rfl
  · exact .inr (.inr ⟨⟨info, hinfo, .inl hgt⟩, by rw [hc]; rfl⟩)

/-- A build does not write behind its structs if and only if the records fit. -/
theorem mandBldTlv_ok_iff (type : AgentType) (txTTL : Nat) (l : Lookups) (d : MandData) :
    (∃ r, mandBldTlv type txTTL l d = .ok r) ↔ RecordsFit type l d := by
  have hchassis : (∀ info, chassisInfo type l d = some info → info.length ≤ sizeofInfo) ↔
      IdentFrom d.rebuildChassis d.chassis (shmMsap type d l.shmChassis)
        (fun info => info.length ≤ sizeofInfo) True :=
    (identFrom_iff ..).2.trans (IdentFrom.congr (iff_of_true (fun id _ => id.le) trivial))
  have hportid : (∀ info, portidInfo type l d = some info → info.length ≤ sizeofInfo) ↔
      IdentFrom d.rebuildPortid d.portid (shmMsap type d l.shmPortid)
        (fun info => info.length ≤ sizeofInfo) True :=
    (identFrom_iff ..).2.trans (IdentFrom.congr (iff_of_true (fun id _ => id.le) trivial))
  have hfound : (∃ info, chassisInfo type l d = some info ∧ True) ↔
      IdentFrom d.rebuildChassis d.chassis (shmMsap type d l.shmChassis) (fun _ => True)
        ((chassisFromScratch l d.ifname).isSome = true) :=
    (identFrom_iff ..).1.trans
      (IdentFrom.congr (by rw [Option.isSome_iff_exists]; simp only [and_true]))
  unfold RecordsFit
  rw [← hchassis, ← hportid, ← hfound]
  cases hport : l.port with
  | false =>
    refine iff_of_true ⟨(d, false), ?_⟩ nofun
    exact if_pos hport
  | true =>
    rcases mandBldTlv_eq type txTTL hport d with ⟨hnone, hbld⟩ | ⟨c, p, hc, hp, hbld⟩ |
      ⟨⟨info, hc, hgt⟩, hbld⟩
    · refine iff_of_true ⟨_, hbld⟩ fun _ => ⟨?_, ?_⟩
      · rw [hnone]
        exact nofun
      · rintro ⟨info, hinfo, -⟩
        rw [hnone] at hinfo
        cases hinfo
    · refine iff_of_true ⟨_, hbld⟩ fun _ => ⟨?_, fun _ => ?_⟩
      · rw [hc]
        rintro info ⟨⟩
        exact c.le
      · rw [hp]
        rintro info ⟨⟩
        exact p.le
    · refine iff_of_false ?_ fun h => ?_
      · rintro ⟨r, hr⟩
        rw [hbld] at hr
        cases hr
      · obtain ⟨hfit, hbehind⟩ := h rfl
        rcases hgt with hgt | ⟨info', hp, hgt⟩
        · have hle := hfit info hc
          omega
        · have hle := hbehind ⟨info, hc, trivial⟩ info' hp
          omega

/-- A build leaves three TLVs that a frame may start with. -/
def BuildsAll (type : AgentType) (txTTL : Nat) (l : Lookups) (d : MandData) : Prop :=
  ∃ d' built chassis portid ttl, mandBldTlv type txTTL l d = .ok (d', built) ∧
    d'.Full chassis portid ttl ∧ ValidId chassis.info ∧ ValidId portid.info ∧
    FallsBack type l (some d) chassis.info

/-- The condition of one build. Without the port nothing is built, and what is kept is sent. -/
def BuildOk (type : AgentType) (l : Lookups) (d : MandData) : Prop :=
  if l.port = true then ChassisOk type l d ∧ PortidOk type l d
  else ∃ chassis portid ttl, d.Full chassis portid ttl ∧ ValidId chassis.info ∧
    ValidId portid.info

theorem buildsAll_iff (type : AgentType) (txTTL : Nat) (l : Lookups) (d : MandData) :
    BuildsAll type txTTL l d ↔ BuildOk type l d := by
  unfold BuildOk
  split
  · next hport =>
    rw [← chassisOk_iff hport, ← portidOk_iff]
    rcases mandBldTlv_eq type txTTL hport d with ⟨hnone, hbld⟩ | ⟨c, p, hc, hp, hbld⟩ |
      ⟨⟨info, hc, hgt⟩, hbld⟩
    · refine iff_of_false ?_ ?_
      · rintro ⟨d', built, c, p, t, hr, hfull, -⟩
        rw [hbld] at hr
        cases hr
        exact nomatch hfull.chassis
      · rintro ⟨⟨info, hinfo, -⟩, -⟩
        rw [hnone] at hinfo
        cases hinfo
    · constructor
      · rintro ⟨d', built, c', p', t, hr, hfull, hvalidC, hvalidP, hfalls⟩
        rw [hbld] at hr
        cases hr
        cases hfull.chassis
        cases hfull.portid
        exact ⟨⟨_, hc, hvalidC, hfalls⟩, ⟨_, hp, hvalidP⟩⟩
      · rintro ⟨⟨cinfo, hcinfo, hvalidC, hfalls⟩, ⟨pinfo, hpinfo, hvalidP⟩⟩
        cases hc.symm.trans hcinfo
        cases hp.symm.trans hpinfo
        exact ⟨_, _, c, p, _, hbld, full_built d txTTL c p, hvalidC, hvalidP, hfalls⟩
    · refine iff_of_false ?_ ?_
      · rintro ⟨d', built, c, p, t, hr, -⟩
        rw [hbld] at hr
        cases hr
      · rintro ⟨⟨info', hinfo', hvalidC, -⟩, ⟨pinfo, hpinfo, hvalidP⟩⟩
        cases hc.symm.trans hinfo'
        rcases hgt with hgt | ⟨_, hp, hgt⟩
        · have hle := hvalidC.le
          omega
        · cases hp.symm.trans hpinfo
          have hle := hvalidP.le
          omega
  · next hport =>
    have hbld : mandBldTlv type txTTL l d = .ok (d, false) :=
      if_pos (Bool.eq_false_iff.mpr hport)
    constructor
    · rintro ⟨d', built, c, p, t, hr, hfull, hvalidC, hvalidP, -⟩
      rw [hbld] at hr
      cases hr
      exact ⟨c, p, t, hfull, hvalidC, hvalidP⟩
    · rintro ⟨c, p, t, hfull, hvalidC, hvalidP⟩
      exact ⟨d, false, c, p, t, hbld, hfull, hvalidC, hvalidP, fun _ _ h => absurd h hport⟩

/-! ### One frame -/

/-- The agent's data and what the build is told, among the other modules -/
structure Holds (type : AgentType) (txTTL : Nat) (l : Lookups) (md : Option MandData) {σ : Type}
    (c : Ctx (MandModules σ)) : Prop where
  type : c.agent.type = type
  txTTL : c.agent.tx.txTTL = txTTL
  lookups : c.modules.lookups = l
  md : c.modules.md = md

/-- `mand_gettlv` stays inside its structs, and every frame of `mibConstrInfoLLDPDU` starts with
the mandatory TLVs, whatever the other modules are. -/
def InfoCarries (type : AgentType) (txTTL : Nat) (l : Lookups) (md : Option MandData) : Prop :=
  (∃ r, mandGettlv type txTTL l md = .ok r) ∧
    ∀ (σ : Type) (others : List (LldpModule σ)) (ownSrcAddr : Bytes) (c : Ctx (MandModules σ)),
      Holds type txTTL l md c → ∀ frame,
        (mibConstrInfoLLDPDU (mandEnv others ownSrcAddr) c).agent.tx.frameout = some frame →
        StartsMandatory (fun _ => True) (FallsBack type l md)
          (frame.drop (ethHeader (mandEnv others ownSrcAddr) c.agent).length)

/-- The same for `mibConstrShutdownLLDPDU`, where the time to live is zero -/
def ShutdownCarries (type : AgentType) (txTTL : Nat) (l : Lookups) (md : Option MandData) :
    Prop :=
  (∃ r, mandGettlv type txTTL l md = .ok r) ∧
    ∀ (σ : Type) (others : List (LldpModule σ)) (ownSrcAddr : Bytes) (c : Ctx (MandModules σ)),
      Holds type txTTL l md c → ∀ frame,
        (mibConstrShutdownLLDPDU (mandEnv others ownSrcAddr) c).1.agent.tx.frameout =
          some frame →
        StartsMandatory (fun time => time = [0, 0]) (FallsBack type l md)
          (frame.drop (ethHeader (mandEnv others ownSrcAddr) c.agent).length)

/-- What `mand_gettlv` hands over for these data -/
def handedOver (d : MandData) : Option Bytes :=
  if mandBytes d = [] then none else some (mandBytes d)

theorem handedOver_getD (d : MandData) : (handedOver d).getD [] = mandBytes d := by
  unfold handedOver
  split
  · next h => exact h.symm
  · rfl

theorem mandGettlv_some (type : AgentType) (txTTL : Nat) (l : Lookups) (d : MandData) :
    mandGettlv type txTTL l (some d) =
      mandBldTlv type txTTL l d >>= fun (d', _) => .ok (some d', handedOver d') := by
  unfold mandGettlv
  dsimp only
  cases mandBldTlv type txTTL l d with
  | error e => rfl
  | ok r =>
    obtain ⟨d', built⟩ := r
    rw [bind_ok, bind_ok, packMand_eq]
    rfl

theorem mandGettlv_cases (h : mandGettlv type txTTL l md = .ok (md', ptlv)) :
    (md' = none ∧ ptlv = none) ∨ ∃ d, md' = some d ∧ ptlv = handedOver d := by
  cases md with
  | none =>
    cases h
    exact .inl ⟨rfl, rfl⟩
  | some d =>
    rw [mandGettlv_some] at h
    obtain ⟨⟨d', built⟩, -, hrest⟩ := bind_eq_ok.mp h
    cases hrest
    exact .inr ⟨d', rfl, rfl⟩

theorem length_mandGettlv_le (h : mandGettlv type txTTL l md = .ok (md', ptlv)) :
    (ptlv.getD []).length ≤ 774 := by
  obtain ⟨-, rfl⟩ | ⟨d, -, rfl⟩ := mandGettlv_cases h
  · exact Nat.zero_le _
  · rw [handedOver_getD]
    exact length_mandBytes_le d

theorem setFrameout_eq {a : LldpAgent} (h : (setFrameout a (some b)).tx.frameout = some frame) :
    ∃ pad, frame = b ++ ([0, 0] ++ pad) := by
  unfold setFrameout at h
  dsimp only at h
  split at h
  · cases h
  · cases h
    exact ⟨_, List.append_assoc ..⟩

theorem setFrameout_fits (a : LldpAgent) (h : b.length ≤ 1000) :
    ∃ frame, (setFrameout a (some b)).tx.frameout = some frame := by
  have hroom := (Lldp.setFrameout_isSome_iff a (some b)).mpr ⟨b, rfl, by
    show 2 + b.length ≤ 1500
    omega⟩
  exact Option.isSome_iff_exists.mp hroom

/-- The agent without a frame, as both functions start with it -/
def cleared (a : LldpAgent) : LldpAgent := { a with tx := { a.tx with frameout := none } }

theorem suppliedTlvs_mand {σ : Type} (others : List (LldpModule σ)) (ownSrcAddr : Bytes)
    (c : Ctx (MandModules σ))
    (h : mandGettlv c.agent.type c.agent.tx.txTTL c.modules.lookups c.modules.md =
      .ok (md, ptlv)) :
    suppliedTlvs c.port (cleared c.agent) (mandEnv others ownSrcAddr).modules c.modules =
      ptlv.getD [] ++ suppliedTlvs c.port (cleared c.agent) (others.map restModule)
        { c.modules with md := md } := by
  have h' : mandGettlv (cleared c.agent).type (cleared c.agent).tx.txTTL c.modules.lookups
      c.modules.md = .ok (md, ptlv) := h
  show suppliedTlvs c.port (cleared c.agent) (mandModule :: others.map restModule) c.modules = _
  rw [suppliedTlvs]
  dsimp only [mandModule]
  rw [h']

theorem info_frame {σ : Type} {others : List (LldpModule σ)} {ownSrcAddr : Bytes}
    {c : Ctx (MandModules σ)}
    (h : mandGettlv c.agent.type c.agent.tx.txTTL c.modules.lookups c.modules.md =
      .ok (md, ptlv))
    (hframe : (mibConstrInfoLLDPDU (mandEnv others ownSrcAddr) c).agent.tx.frameout =
      some frame) :
    ∃ rest, frame.drop (ethHeader (mandEnv others ownSrcAddr) c.agent).length =
      ptlv.getD [] ++ rest := by
  have hbuild : (mibConstrInfoLLDPDU (mandEnv others ownSrcAddr) c).agent =
      setFrameout (cleared c.agent) (gettlvAll c.port (cleared c.agent)
        (mandEnv others ownSrcAddr).modules c.modules
        (ethHeader (mandEnv others ownSrcAddr) c.agent)).2 := rfl
  rw [hbuild] at hframe
  cases hall : (gettlvAll c.port (cleared c.agent) (mandEnv others ownSrcAddr).modules c.modules
      (ethHeader (mandEnv others ownSrcAddr) c.agent)).2 with
  | none =>
    rw [hall] at hframe
    cases hframe
  | some b =>
    rw [hall] at hframe
    obtain ⟨pad, rfl⟩ := setFrameout_eq hframe
    have hb := Lldp.gettlvAll_some _ _ _ _ hall
    rw [suppliedTlvs_mand others ownSrcAddr c h] at hb
    rw [hb, List.append_assoc, List.drop_left, List.append_assoc]
    exact ⟨_, rfl⟩

/-- A small agent that holds the given data -/
def smallCtx (type : AgentType) (txTTL : Nat) (l : Lookups) (md : Option MandData) :
    Ctx (MandModules Unit) where
  port := { portEnabled := true }
  modules := { md := md, lookups := l, rest := () }
  agent := { type := type, adminStatus := .enabledRxTx, tx := { txTTL := txTTL } }

theorem holds_smallCtx (type : AgentType) (txTTL : Nat) (l : Lookups) (md : Option MandData) :
    Holds type txTTL l md (smallCtx type txTTL l md) := ⟨rfl, rfl, rfl, rfl⟩

theorem length_ethHeader_le (type : AgentType) (txTTL : Nat) (l : Lookups) (md : Option MandData) :
    (ethHeader (mandEnv ([] : List (LldpModule Unit)) []) (smallCtx type txTTL l md).agent).length
      ≤ 20 := by
  cases type <;> exact show 8 ≤ 20 by omega

theorem small_info_frame {md : Option MandData}
    (h : mandGettlv type txTTL l md = .ok (md', ptlv)) :
    ∃ frame pad,
      (mibConstrInfoLLDPDU (mandEnv [] []) (smallCtx type txTTL l md)).agent.tx.frameout =
        some frame ∧
      frame.drop (ethHeader (mandEnv ([] : List (LldpModule Unit)) [])
        (smallCtx type txTTL l md).agent).length = ptlv.getD [] ++ ([0, 0] ++ pad) := by
  have hsup := suppliedTlvs_mand [] [] (smallCtx type txTTL l md) h
  have hnone : suppliedTlvs (smallCtx type txTTL l md).port
      (cleared (smallCtx type txTTL l md).agent) (([] : List (LldpModule Unit)).map restModule)
      { (smallCtx type txTTL l md).modules with md := md' } = [] := rfl
  rw [hnone, List.append_nil] at hsup
  have hle := length_mandGettlv_le h
  have hhead := length_ethHeader_le type txTTL l md
  have hall := Lldp.gettlvAll_of_room (mandEnv [] []).modules (smallCtx type txTTL l md).modules
    (ethHeader (mandEnv ([] : List (LldpModule Unit)) []) (smallCtx type txTTL l md).agent)
    (p := (smallCtx type txTTL l md).port) (a := cleared (smallCtx type txTTL l md).agent) (by
      rw [hsup]
      show _ ≤ 1500
      omega)
  rw [hsup] at hall
  obtain ⟨frame, hframe⟩ := setFrameout_fits (cleared (smallCtx type txTTL l md).agent)
    (b := ethHeader (mandEnv ([] : List (LldpModule Unit)) []) (smallCtx type txTTL l md).agent ++
      ptlv.getD []) (by rw [List.length_append]; omega)
  obtain ⟨pad, hpad⟩ := setFrameout_eq hframe
  refine ⟨frame, pad, ?_, ?_⟩
  · rw [← hframe, ← hall]
    rfl
  · rw [hpad, List.append_assoc, List.drop_left]

/-- The bytes of a shutdown frame behind its header -/
def shutdownBytes (d : MandData) : Bytes := ((handedOver d).map Lldp.zeroTtl).getD []

theorem shutdownBytes_of_ttl {ttl : UInt16} (h : d.ttl = some ttl) :
    shutdownBytes d = mandBytes { d with ttl := some 0 } := by
  have hsplit : ∀ ttl : UInt16, mandBytes { d with ttl := some ttl } =
      (optTlv chassisIdTlv (d.chassis.map (·.info)) ++
        (optTlv portIdTlv (d.portid.map (·.info)) ++ htons (packHeader timeToLiveTlv 2))) ++
        htons ttl := by
    intro ttl
    rw [mandBytes_eq, List.append_assoc, List.append_assoc]
    rfl
  have hsame : { d with ttl := some ttl } = d := by rw [← h]
  have hd := hsplit ttl
  rw [hsame] at hd
  have hne : mandBytes d ≠ [] := by
    rw [hd]
    exact List.append_ne_nil_of_right_ne_nil _ nofun
  have hzero : Lldp.zeroTtl (mandBytes d) = mandBytes { d with ttl := some 0 } := by
    have hlen : (htons ttl).length = 2 := rfl
    unfold Lldp.zeroTtl
    rw [hd, hsplit 0, List.length_append, hlen, Nat.add_sub_cancel, List.take_left]
    rfl
  unfold shutdownBytes handedOver
  rw [if_neg hne]
  exact hzero

/-- Without a time to live there is nothing at all. -/
def NoneWithoutTtl (md : Option MandData) : Prop :=
  ∀ d, md = some d → d.ttl = none → d.chassis = none ∧ d.portid = none

theorem shutdownBytes_of_none (h : d.ttl = none) (hc : d.chassis = none)
    (hp : d.portid = none) : shutdownBytes d = [] := by
  have hnil : mandBytes d = [] := by
    rw [mandBytes_eq, h, hc, hp]
    rfl
  unfold shutdownBytes handedOver
  rw [if_pos hnil]
  rfl

/-- The shutdown frame before its End TLV -/
def shutdownFrame (head : Bytes) : Option Bytes → Option Bytes
  | none => some head
  | some tlv =>
    if tlv.length + head.length > ethDataLen then none else some (head ++ Lldp.zeroTtl tlv)

theorem shutdown_build {σ : Type} (others : List (LldpModule σ)) (ownSrcAddr : Bytes)
    (c : Ctx (MandModules σ))
    (h : mandGettlv c.agent.type c.agent.tx.txTTL c.modules.lookups c.modules.md =
      .ok (md, ptlv)) :
    (mibConstrShutdownLLDPDU (mandEnv others ownSrcAddr) c).1.agent =
      setFrameout (cleared c.agent)
        (shutdownFrame (ethHeader (mandEnv others ownSrcAddr) c.agent) ptlv) := by
  have hfind : (((mandEnv others ownSrcAddr).modules.find? fun np => np.isMand) >>=
      fun np => np.gettlv) = mandModule.gettlv := rfl
  unfold mibConstrShutdownLLDPDU
  rw [hfind]
  unfold mandModule
  dsimp only
  rw [h]
  cases ptlv with
  | none => rfl
  | some tlv => rfl

theorem shutdown_frame {σ : Type} {others : List (LldpModule σ)} {ownSrcAddr : Bytes}
    {c : Ctx (MandModules σ)}
    (h : mandGettlv c.agent.type c.agent.tx.txTTL c.modules.lookups c.modules.md =
      .ok (md, ptlv))
    (hframe : (mibConstrShutdownLLDPDU (mandEnv others ownSrcAddr) c).1.agent.tx.frameout =
      some frame) :
    ∃ pad, frame.drop (ethHeader (mandEnv others ownSrcAddr) c.agent).length =
      (ptlv.map Lldp.zeroTtl).getD [] ++ ([0, 0] ++ pad) := by
  rw [shutdown_build others ownSrcAddr c h] at hframe
  cases ptlv with
  | none =>
    obtain ⟨pad, rfl⟩ := setFrameout_eq hframe
    exact ⟨pad, List.drop_left⟩
  | some tlv =>
    unfold shutdownFrame at hframe
    dsimp only at hframe
    split at hframe
    · cases hframe
    · obtain ⟨pad, rfl⟩ := setFrameout_eq hframe
      refine ⟨pad, ?_⟩
      rw [List.append_assoc, List.drop_left]
      rfl

theorem small_shutdown_frame {md : Option MandData}
    (h : mandGettlv type txTTL l md = .ok (md', ptlv)) :
    ∃ frame,
      (mibConstrShutdownLLDPDU (mandEnv [] [])
        (smallCtx type txTTL l md)).1.agent.tx.frameout = some frame := by
  have hle := length_mandGettlv_le h
  have hhead := length_ethHeader_le type txTTL l md
  rw [shutdown_build [] [] (smallCtx type txTTL l md) h]
  cases ptlv with
  | none => exact setFrameout_fits _ (by omega)
  | some tlv =>
    rw [Option.getD_some] at hle
    unfold shutdownFrame
    dsimp only
    rw [if_neg (by show ¬ _ > 1500; omega)]
    refine setFrameout_fits _ ?_
    unfold Lldp.zeroTtl
    simp only [List.length_append, List.length_take, List.length_cons, List.length_nil]
    omega

/-- The condition of one frame -/
def MandatoryOk (type : AgentType) (l : Lookups) (md : Option MandData) : Prop :=
  ∃ d, md = some d ∧ BuildOk type l d

theorem not_startsMandatory_end {time chassisIs : Bytes → Prop} {pad : Bytes} :
    ¬ StartsMandatory time chassisIs ([0, 0] ++ pad) := by
  intro h
  obtain ⟨c, p, ttl, hfull, -⟩ := full_of_startsMandatory
    (d := { ifname := ⟨[0], by decide, by decide⟩ }) h
  exact nomatch hfull.chassis

/-- The data that `mand_gettlv` leaves have three TLVs that a frame may start with. -/
theorem mandatoryOk_iff (type : AgentType) (txTTL : Nat) (l : Lookups) (md : Option MandData) :
    MandatoryOk type l md ↔ ∃ d, mandGettlv type txTTL l md = .ok (some d, handedOver d) ∧
      ∃ chassis portid ttl, d.Full chassis portid ttl ∧ ValidId chassis.info ∧
        ValidId portid.info ∧ FallsBack type l md chassis.info := by
  constructor
  · rintro ⟨d, rfl, hok⟩
    obtain ⟨d', built, c, p, ttl, hbld, hstarts⟩ := (buildsAll_iff type txTTL l d).mpr hok
    exact ⟨d', by rw [mandGettlv_some, hbld, bind_ok], c, p, ttl, hstarts⟩
  · rintro ⟨d', hget, c, p, ttl, hstarts⟩
    cases md with
    | none => cases hget
    | some d =>
      rw [mandGettlv_some] at hget
      obtain ⟨⟨_, built⟩, hbld, hrest⟩ := bind_eq_ok.mp hget
      cases hrest
      exact ⟨d, rfl, (buildsAll_iff type txTTL l d).mp ⟨d', built, c, p, ttl, hbld, hstarts⟩⟩

theorem infoCarries_iff (type : AgentType) (txTTL : Nat) (l : Lookups) (md : Option MandData) :
    InfoCarries type txTTL l md ↔ MandatoryOk type l md := by
  rw [mandatoryOk_iff type txTTL]
  constructor
  · rintro ⟨⟨⟨md', ptlv⟩, hget⟩, hall⟩
    obtain ⟨frame, pad, hframe, hpayload⟩ := small_info_frame hget
    have hstart := hall Unit [] [] _ (holds_smallCtx type txTTL l md) frame hframe
    rw [hpayload] at hstart
    obtain ⟨rfl, rfl⟩ | ⟨d, rfl, rfl⟩ := mandGettlv_cases hget
    · exact absurd hstart not_startsMandatory_end
    · rw [handedOver_getD] at hstart
      obtain ⟨c, p, ttl, hfull, hvalidC, hvalidP, _, hfalls⟩ := full_of_startsMandatory hstart
      exact ⟨d, hget, c, p, ttl, hfull, hvalidC, hvalidP, hfalls⟩
  · rintro ⟨d, hget, c, p, ttl, hfull, hvalidC, hvalidP, hfalls⟩
    refine ⟨⟨_, hget⟩, ?_⟩
    rintro σ others ownSrcAddr ctx ⟨rfl, rfl, rfl, rfl⟩ frame hframe
    obtain ⟨rest, hpayload⟩ := info_frame hget hframe
    rw [hpayload, handedOver_getD]
    exact startsMandatory_of_full hfull hvalidC hvalidP trivial hfalls rest

/-- So does a shutdown frame, of an agent that has nothing without a time to live. -/
theorem shutdownCarries_iff (type : AgentType) (txTTL : Nat) (l : Lookups)
    (hmd : ∀ r, mandGettlv type txTTL l md = .ok r → NoneWithoutTtl r.1) :
    ShutdownCarries type txTTL l md ↔ MandatoryOk type l md := by
  rw [mandatoryOk_iff type txTTL]
  constructor
  · rintro ⟨⟨⟨md', ptlv⟩, hget⟩, hall⟩
    obtain ⟨frame, hframe⟩ := small_shutdown_frame hget
    obtain ⟨pad, hpayload⟩ := shutdown_frame hget hframe
    have hstart := hall Unit [] [] _ (holds_smallCtx type txTTL l md) frame hframe
    rw [hpayload] at hstart
    obtain ⟨rfl, rfl⟩ | ⟨d, rfl, rfl⟩ := mandGettlv_cases hget
    · exact absurd hstart not_startsMandatory_end
    · cases httl : d.ttl with
      | none =>
        obtain ⟨hc, hp⟩ := hmd _ hget d rfl httl
        have hnil := shutdownBytes_of_none httl hc hp
        unfold shutdownBytes at hnil
        rw [hnil] at hstart
        exact absurd hstart not_startsMandatory_end
      | some ttl =>
        have hbytes := shutdownBytes_of_ttl httl
        unfold shutdownBytes at hbytes
        rw [hbytes] at hstart
        obtain ⟨c, p, _, hfull, hvalidC, hvalidP, _, hfalls⟩ := full_of_startsMandatory hstart
        exact ⟨d, hget, c, p, ttl, ⟨hfull.chassis, hfull.portid, httl⟩, hvalidC, hvalidP, hfalls⟩
  · rintro ⟨d, hget, c, p, ttl, hfull, hvalidC, hvalidP, hfalls⟩
    refine ⟨⟨_, hget⟩, ?_⟩
    rintro σ others ownSrcAddr ctx ⟨rfl, rfl, rfl, rfl⟩ frame hframe
    obtain ⟨pad, hpayload⟩ := shutdown_frame hget hframe
    have hbytes := shutdownBytes_of_ttl hfull.ttl
    unfold shutdownBytes at hbytes
    rw [hpayload, hbytes]
    have hzero : ({ d with ttl := some 0 } : MandData).Full c p 0 :=
      ⟨hfull.chassis, hfull.portid, rfl⟩
    refine startsMandatory_of_full hzero hvalidC hvalidP ?_ hfalls _
    rfl

/-! ### Every run -/

theorem noneWithoutTtl_bld {d d' : MandData} {built : Bool} (h : NoneWithoutTtl (some d))
    (hbld : mandBldTlv type txTTL l d = .ok (d', built)) : NoneWithoutTtl (some d') := by
  rintro _ ⟨⟩ httl
  cases hport : l.port with
  | false =>
    have hsame : mandBldTlv type txTTL l d = .ok (d, false) := if_pos hport
    rw [hsame] at hbld
    cases hbld
    exact h _ rfl httl
  | true =>
    rcases mandBldTlv_eq type txTTL hport d with ⟨_, hr⟩ | ⟨c, p, _, _, hr⟩ | ⟨_, hr⟩
    · rw [hr] at hbld
      cases hbld
      exact ⟨rfl, (h d rfl httl).2⟩
    · rw [hr] at hbld
      cases hbld
      exact nomatch httl
    · rw [hr] at hbld
      cases hbld

theorem noneWithoutTtl_gettlv (h : NoneWithoutTtl md) :
    ∀ r, mandGettlv type txTTL l md = .ok r → NoneWithoutTtl r.1 := by
  intro r hr
  cases md with
  | none =>
    cases hr
    exact h
  | some d =>
    rw [mandGettlv_some] at hr
    obtain ⟨⟨d', built⟩, hbld, hr⟩ := bind_eq_ok.mp hr
    cases hr
    exact noneWithoutTtl_bld h hbld

theorem noneWithoutTtl_step {ifname : IfName} {md : Option MandData}
    {e : MandEvent} (h : NoneWithoutTtl md) (hstep : mandStep ifname type md e = .ok md') :
    NoneWithoutTtl md' := by
  cases e with
  | ifup txTTL l =>
    obtain ⟨⟨d', built⟩, hbld, hr⟩ := bind_eq_ok.mp hstep
    have hstart : NoneWithoutTtl (some (md.getD { ifname := ifname })) := by
      cases md with
      | some d => exact h
      | none =>
        intro d hd _
        cases hd
        exact ⟨rfl, rfl⟩
    have hbuilt := noneWithoutTtl_bld hstart hbld
    cases built with
    | false =>
      cases hr
      intro d hd
      cases hd
    | true =>
      cases hr
      intro d hd httl
      cases hd
      exact hbuilt d' rfl httl
  | ifdown =>
    cases hstep
    intro d hd _
    obtain ⟨d₀, _, rfl⟩ := Option.map_eq_some_iff.mp hd
    exact ⟨rfl, rfl⟩
  | setSubtype =>
    cases hstep
    intro d hd httl
    obtain ⟨d₀, hd₀, rfl⟩ := Option.map_eq_some_iff.mp hd
    exact h d₀ hd₀ httl
  | info txTTL l | shutdown txTTL l =>
    obtain ⟨r, hget, hr⟩ := bind_eq_ok.mp hstep
    cases hr
    exact noneWithoutTtl_gettlv h r hget

/-- What one event has to do: the frames carry the mandatory TLVs, and nothing writes behind its
structs. -/
def Carries (ifname : IfName) (type : AgentType) (md : Option MandData) : MandEvent → Prop
  | .ifup txTTL l => ∃ r, mandIfup ifname type txTTL l md = .ok r
  | .info txTTL l => InfoCarries type txTTL l md
  | .shutdown txTTL l => ShutdownCarries type txTTL l md
  | .ifdown | .setSubtype => True

/-- The condition of one event -/
def CarryOk (ifname : IfName) (type : AgentType) (md : Option MandData) : MandEvent → Prop
  | .ifup _ l => RecordsFit type l (md.getD { ifname := ifname })
  | .info _ l | .shutdown _ l => MandatoryOk type l md
  | .ifdown | .setSubtype => True

theorem carries_iff (ifname : IfName) (type : AgentType) (h : NoneWithoutTtl md) (e : MandEvent) :
    Carries ifname type md e ↔ CarryOk ifname type md e := by
  cases e with
  | ifup txTTL l =>
    show (∃ r, mandIfup ifname type txTTL l md = .ok r) ↔
      RecordsFit type l (md.getD { ifname := ifname })
    rw [← mandBldTlv_ok_iff type txTTL]
    constructor
    · rintro ⟨r, hr⟩
      obtain ⟨b, hb, _⟩ := bind_eq_ok.mp hr
      exact ⟨b, hb⟩
    · rintro ⟨⟨d', built⟩, hb⟩
      exact ⟨_, bind_eq_ok.mpr ⟨_, hb, rfl⟩⟩
  | info txTTL l => exact infoCarries_iff type txTTL l md
  | shutdown txTTL l => exact shutdownCarries_iff type txTTL l (noneWithoutTtl_gettlv h)
  | ifdown => exact Iff.rfl
  | setSubtype => exact Iff.rfl

/-- In every run of the module the events whose frames carry the mandatory TLVs are those that
meet their condition. -/
theorem mandatory_iff (ifname : IfName) (type : AgentType) (es : List MandEvent) :
    (mandSystem ifname type).StepsMeet (Carries ifname type) none es ↔
      (mandSystem ifname type).StepsMeet (CarryOk ifname type) none es :=
  System.stepsMeet_iff (I := NoneWithoutTtl) (fun _ e h => carries_iff ifname type h e)
    (fun _ _ _ h _ hstep => noneWithoutTtl_step h hstep) es none nofun

/-- A network address is asked for where there is none. -/
def noAddress : Lookups :=
  { port := true, shmChassis := [], shmPortid := [], medTx := false, devtype := 0
    chassisSubtype := 5, portidSubtype := 0
    mac := #v[0x02, 0, 0, 0, 0, 1], ipaddr := none, ifaddrs := none
    stack := Vector.replicate 16 0 }

/-- The data of an interface `a` are removed when it comes up, and its next frame has no TLV but
the last one. -/
theorem not_mandatory : ¬ ∀ ifname type es,
    (mandSystem ifname type).StepsMeet (Carries ifname type) none es := by
  intro h
  obtain ⟨_, hrest⟩ := h ⟨[0x61], by decide, by decide⟩ .nearestBridge
    [.ifup 120 noAddress, .info 120 noAddress]
  obtain ⟨hcarries, _⟩ := hrest none (by decide +kernel)
  obtain ⟨d, hd, _⟩ := (infoCarries_iff .nearestBridge 120 noAddress none).mp hcarries
  cases hd

end Lldpad.Mand
