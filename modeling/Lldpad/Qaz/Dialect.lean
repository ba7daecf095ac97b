import Lldpad.Lib.Transition
import Lldpad.Qaz.Tlv

/-!
# `Lldpad.Qaz.Dialect`: which DCBX protocol an interface runs

The daemon has two modules for DCBX: the one of the older protocols, CIN and CEE (`lldp_dcbx.c`),
and the one of 802.1Qaz (`lldp_8021qaz.c`). Each has a flag `active` for an interface. This
module has what the two keep for one interface as far as it decides about these flags, and what
reaches them: the interface comes up or goes down, a client resets the mode, an LLDPDU arrives.

The answers of the kernel and of the configuration are data of an event, and so is whether a write
to the shared memory succeeds. `behind` is the memory behind a TLV, which the module of the older
protocols may read.

The older module keeps `gdcbx_subtype` in `dcbx_st` when the interface comes up. It never changes,
so the model reads it from the version of the daemon. Bonds and VLANs have no data in either
module and are left out, like `pending`, which no function here reads.
-/

namespace Lldpad.Qaz.Dialect

open Lldpad.Lib
open Lldpad.Lldp (Bytes Answer)

/-! ### Data -/

/-- What `lldpad_shm_get_dcbx` says: `DCBX_SUBTYPE0`, `DCBX_SUBTYPE1`, `DCBX_SUBTYPE2` -/
inductive DcbxMode where
  | auto
  | cin
  | cee
  deriving DecidableEq, Repr

/-- `gdcbx_subtype`. `get_dcbx_version` takes no other value. -/
inductive DcbxVersion where
  | subtype1
  | subtype2
  | forceSubtype1
  | forceSubtype2
  deriving DecidableEq, Repr

/-- `gdcbx_subtype & MASK_DCBX_FORCE`, which is `dcbx_st` -/
def DcbxVersion.st : DcbxVersion → UInt8
  | .subtype1 | .forceSubtype1 => 1
  | .subtype2 | .forceSubtype2 => 2

/-- `gdcbx_subtype & ~MASK_DCBX_FORCE` -/
def DcbxVersion.forced : DcbxVersion → Bool
  | .subtype1 | .subtype2 => false
  | .forceSubtype1 | .forceSubtype2 => true

/-- `lldpad_shm_set_dcbx(ifname, gdcbx_subtype)`, which refuses a forced version -/
def DcbxVersion.setShm (v : DcbxVersion) (written : Bool) (shm : DcbxMode) : DcbxMode :=
  match v with
  | .subtype1 => if written then .cin else shm
  | .subtype2 => if written then .cee else shm
  | .forceSubtype1 | .forceSubtype2 => shm

/-- `struct dcbx_tlvs`, with the TLVs of the older protocols in its manifest -/
structure DcbxTlvs where
  active : Bool := false
  rxedTlvs : Bool := false
  dcbx1 : Option Bytes := none
  dcbx2 : Option Bytes := none
  deriving DecidableEq, Repr

/-- `struct ieee8021qaz_tlvs`, with the subtypes of the TLVs in `rx` -/
structure QazCtl where
  active : Bool := false
  qazdu : Bool := false
  rx : List UInt8 := []
  deriving DecidableEq, Repr

/-- An interface: its entry in the shared memory and what the two modules keep for it -/
structure DialectPort where
  shm : DcbxMode
  dcbx : Option DcbxTlvs := none
  qaz : Option QazCtl := none
  deriving DecidableEq, Repr

/-- `dcbx_check_active` -/
def DialectPort.dcbxActive (s : DialectPort) : Bool := s.dcbx.any (·.active)

/-- The flag of the module of 802.1Qaz -/
def DialectPort.qazActive (s : DialectPort) : Bool := s.qaz.any (·.active)

/-- The order of the modules in `lldp_head` -/
inductive Registered where
  | dcbxFirst
  | qazFirst
  deriving DecidableEq, Repr

/-! ### The interface comes up and goes down -/

def dcbCapDcbxHost : UInt8 := 0x01

def dcbCapDcbxLldManaged : UInt8 := 0x02

/-- What the two modules are told when the interface comes up -/
structure IfupData where
  /-- `port_find_by_ifindex` finds the port. -/
  port : Bool
  /-- `get_hw_state` succeeds. -/
  hwState : Bool
  /-- `dcb_support.dcbx`, before there are data for the interface -/
  newSupport : UInt8
  /-- `dcb_support.dcbx`, zero when the kernel does not answer -/
  support : UInt8
  /-- `dcb_enable != LLDP_DCBX_DISABLED` -/
  enable : Bool
  /-- the write to the shared memory succeeds. -/
  written : Bool
  /-- what `get_dcbx_hw` says, or that it fails -/
  dcbxHw : Option UInt8
  deriving DecidableEq, Repr

/-- The end of `dcbx_ifup`, which decides about `active` -/
def dcbxIfupActive (v : DcbxVersion) (u : IfupData) (d : DcbxTlvs) (s : DialectPort) :
    DialectPort :=
  if u.enable ∧ (u.support = 0 ∨ v.forced ∨ s.shm ≠ .auto) then
    { s with shm := v.setShm u.written s.shm, dcbx := some { d with active := true } }
  else { s with dcbx := some { d with active := false } }

def dcbxIfup (v : DcbxVersion) (u : IfupData) (s : DialectPort) : DialectPort :=
  if u.port = false then s
  else
    match s.dcbx with
    | some d => dcbxIfupActive v u d s
    | none =>
      if u.hwState = false then s
      else if u.newSupport ≠ 0 ∧ u.newSupport &&& dcbCapDcbxHost = 0 then s
      else dcbxIfupActive v u {} s

/-- `dcbx_get_legacy_version(ifname) & ~MASK_DCBX_FORCE` -/
def dcbxGetLegacyVersion (v : DcbxVersion) (s : DialectPort) : Bool :=
  v.forced || s.shm ≠ .auto

/-- The end of `ieee8021qaz_ifup`, which decides about `active` -/
def qazIfupActive (v : DcbxVersion) (q : QazCtl) (s : DialectPort) : DialectPort :=
  { s with qaz := some { q with active := !dcbxGetLegacyVersion v s } }

/-- `ieee8021qaz_ifup` -/
def qazIfup (v : DcbxVersion) (u : IfupData) (s : DialectPort) : DialectPort :=
  match u.dcbxHw with
  | none => s
  | some dcbx =>
    if dcbx &&& dcbCapDcbxLldManaged ≠ 0 then s
    else
      match s.qaz with
      | some q => qazIfupActive v q s
      | none => if u.port = false then s else qazIfupActive v {} s

/-- The interface comes up. -/
def ifup (order : Registered) (v : DcbxVersion) (u : IfupData) (s : DialectPort) : DialectPort :=
  match order with
  | .dcbxFirst => qazIfup v u (dcbxIfup v u s)
  | .qazFirst => dcbxIfup v u (qazIfup v u s)

/-- `dcbx_ifdown`, where `dcbMode` is what `check_port_dcb_mode` says. At the end of
`dcbx_remove_adapter` the mode in the shared memory is reset, if the write succeeds. -/
def dcbxIfdown (dcbMode written : Bool) (s : DialectPort) : DialectPort :=
  match s.dcbx with
  | none => s
  | some _ => { s with dcbx := none, shm := if dcbMode ∧ written then .auto else s.shm }

/-- `ieee8021qaz_ifdown`, which keeps its data -/
def qazIfdown (s : DialectPort) : DialectPort :=
  { s with qaz := s.qaz.map fun q => { q with rx := [] } }

/-- The interface goes down. -/
def ifdown (order : Registered) (dcbMode written : Bool) (s : DialectPort) : DialectPort :=
  match order with
  | .dcbxFirst => qazIfdown (dcbxIfdown dcbMode written s)
  | .qazFirst => dcbxIfdown dcbMode written (qazIfdown s)

/-- `set_arg_dcbx_mode` with `mode=reset`, where `dcbxHw` is that of `is_dcbx_hw` -/
def modeReset (dcbxHw written : Bool) (s : DialectPort) : DialectPort :=
  if dcbxHw ∧ written then { s with shm := .auto } else s

/-! ### The TLVs of the older protocols -/

/-- `INIT_DCB_OUI` -/
def dcbOui : Bytes := [0x00, 0x1b, 0x21]

/-- The byte at offset `i` of a TLV, or behind it -/
def byteAt (info : Bytes) (behind : Nat → UInt8) (i : Nat) : UInt8 := info.getD i (behind i)

/-- The loop of `unpack_dcbx1_tlvs` and `unpack_dcbx2_tlvs`, as far as it finds errors: `last` is
the end of the data, `current` counts the bytes of the TLVs so far. -/
def unpackLoop (info : Bytes) (behind : Nat → UInt8) (last : Nat) : Nat → Nat → Bool
  | 0, _ => true
  | fuel + 1, current =>
    let hi := byteAt info behind (ouiSubSize + current)
    let lo := byteAt info behind (ouiSubSize + current + 1)
    let length := (hi.toNat * 256 + lo.toNat) % 512
    if length = 0 then false
    else if current + 2 + length < last then
      unpackLoop info behind last fuel (current + 2 + length)
    else true

/-- Whether `unpack_dcbx1_tlvs` and `unpack_dcbx2_tlvs` take a TLV. A pass is over three bytes or
more. -/
def unpackDcbxTlvs (info : Bytes) (behind : Nat → UInt8) : Bool :=
  unpackLoop info behind (info.length - ouiSubSize) (info.length + 1) 0

/-! ### An LLDPDU -/

/-- An LLDPDU behind its chassis ID. -/
structure Lldpdu where
  /-- the organizationally specific TLVs that reach the modules -/
  tlvs : List Bytes
  /-- the end reaches the modules. Otherwise the agent or another module has rejected a TLV. -/
  ends : Bool
  /-- the memory behind a TLV -/
  behind : Bytes → Nat → UInt8
  /-- `not_present || enabled`, of the configuration of DCB -/
  enabled : Bool

/-- The marks `RCVD_LLDP_DCBX1_TLV` and `RCVD_LLDP_DCBX2_TLV` in `agent->lldpdu` -/
structure DcbxMarks where
  dcbx1 : Bool := false
  dcbx2 : Bool := false
  deriving DecidableEq, Repr

/-- A TLV of the older protocols in `dcbx_rchange` -/
def dcbxRchangeTlv (v : DcbxVersion) (info : Bytes) (m : DcbxMarks) (d : DcbxTlvs) :
    DcbxTlvs × DcbxMarks × Answer :=
  if info.length < ouiSubSize then (d, m, .tlvErr)
  else if info.take 3 ≠ dcbOui then (d, m, .subtypeInvalid)
  else if info[3]? = some 2 ∧ m.dcbx2 then (d, m, .tlvErr)
  else if info[3]? = some 1 ∧ m.dcbx1 then (d, m, .tlvErr)
  else if info[3]? = some 2 then
    ({ d with rxedTlvs := true, dcbx2 := if v.st = 2 then some info else d.dcbx2 },
      { m with dcbx2 := true }, .tlvOk)
  else if info[3]? = some 1 then
    ({ d with rxedTlvs := true, dcbx1 := if v.st = 1 then some info else d.dcbx1 },
      { m with dcbx1 := true }, .tlvOk)
  else (d, m, .subtypeInvalid)

/-- `ieee8021qaz_tlvs_rxed` -/
def DialectPort.qazTlvsRxed (s : DialectPort) : Bool := s.qaz.any (·.qazdu)

def DialectPort.dcbxTlvsRxed (s : DialectPort) : Bool := s.dcbx.any (·.rxedTlvs)

/-- The older module goes active at the end of an LLDPDU. -/
def goesActive (enabled : Bool) (d : DcbxTlvs) (s : DialectPort) : Bool :=
  !d.active && !s.qazTlvsRxed && d.rxedTlvs && enabled

/-- The TLVs of the older protocols are unpacked. -/
def unpackManifest (behind : Bytes → Nat → UInt8) (d : DcbxTlvs) : Bool :=
  match d.dcbx2, d.dcbx1 with
  | some info, _ => unpackDcbxTlvs info (behind info)
  | none, some info => unpackDcbxTlvs info (behind info)
  | none, none => true

/-- The end of an LLDPDU in `dcbx_rchange`. Nothing but the manifest depends on whether the TLVs
are unpacked. -/
def dcbxRchangeEnd (v : DcbxVersion) (p : Lldpdu) (written : Bool) (d : DcbxTlvs)
    (s : DialectPort) : DialectPort × Answer :=
  let switched := goesActive p.enabled d s
  let shm := if switched then v.setShm written s.shm else s.shm
  let d' := { d with active := d.active || switched }
  if unpackManifest p.behind d then
    ({ s with shm := shm, dcbx := some { d' with dcbx1 := none, dcbx2 := none } }, .subtypeInvalid)
  else ({ s with shm := shm, dcbx := some d' }, .tlvErr)

def dcbxRchange (v : DcbxVersion) (p : Lldpdu) (written : Bool) (tlv : Tlv) (m : DcbxMarks)
    (s : DialectPort) : DialectPort × DcbxMarks × Answer :=
  match s.dcbx with
  | none => (s, m, .subtypeInvalid)
  | some d =>
    if tlv.type = type1 then
      ({ s with dcbx := some { d with rxedTlvs := false, dcbx1 := none, dcbx2 := none } }, m,
        .subtypeInvalid)
    else if tlv.type = type127 then
      let (d, m, answer) := dcbxRchangeTlv v tlv.info m d
      ({ s with dcbx := some d }, m, answer)
    else if tlv.type = type0 then
      let (s, answer) := dcbxRchangeEnd v p written d s
      (s, m, answer)
    else (s, m, .subtypeInvalid)

/-- The subtypes of the TLVs of 802.1Qaz -/
def qazSubtypes : List UInt8 :=
  [ieee8021qazEtscfgTlv, ieee8021qazEtsrecTlv, ieee8021qazPfcTlv, ieee8021qazAppTlv]

/-- `unpack_ieee8021qaz_tlvs` -/
def unpackQaz (info : Bytes) (q : QazCtl) : QazCtl :=
  let subtype := info.getD 3 0
  if subtype ∈ qazSubtypes ∧ subtype ∉ q.rx then
    { q with rx := subtype :: q.rx, qazdu := true }
  else q

/-- The end of an LLDPDU in `ieee8021qaz_rchange` -/
def qazEndCtl (dcbx : Bool) (q : QazCtl) : QazCtl :=
  let q := if q.active && dcbx && !q.qazdu then { q with active := false } else q
  if q.active then { q with rx := [] } else q

/-- `ieee8021qaz_rchange`, for the data of the interface -/
def qazRchangeCtl (dcbx : Bool) (tlv : Tlv) (q : QazCtl) : QazCtl × Answer :=
  if tlv.type = type1 then ({ q with rx := [], qazdu := false }, .tlvOk)
  else if tlv.type = type127 then
    if tlv.info.length < ouiSubSize then (q, .tlvErr)
    else if tlv.info.take 3 ≠ ieee8021qazOui then (q, .subtypeInvalid)
    else (unpackQaz tlv.info q, .tlvOk)
  else if tlv.type = type0 then (qazEndCtl dcbx q, .tlvOk)
  else (q, .tlvOk)

/-- `ieee8021qaz_rchange` -/
def qazRchange (tlv : Tlv) (s : DialectPort) : DialectPort × Answer :=
  match s.qaz with
  | none => (s, .subtypeInvalid)
  | some q =>
    let (q, answer) := qazRchangeCtl s.dcbxTlvsRxed tlv q
    ({ s with qaz := some q }, answer)

/-- The two modules get a TLV. The second one does not see it when the first one rejects it. -/
def rchange (order : Registered) (v : DcbxVersion) (p : Lldpdu) (written : Bool) (tlv : Tlv)
    (m : DcbxMarks) (s : DialectPort) : DialectPort × DcbxMarks × Bool :=
  match order with
  | .dcbxFirst =>
    let (s, m, answer) := dcbxRchange v p written tlv m s
    if answer = .tlvErr then (s, m, true)
    else
      let (s, answer) := qazRchange tlv s
      (s, m, answer = .tlvErr)
  | .qazFirst =>
    let (s, answer) := qazRchange tlv s
    if answer = .tlvErr then (s, m, true)
    else
      let (s, m, answer) := dcbxRchange v p written tlv m s
      (s, m, answer = .tlvErr)

/-- The TLVs of an LLDPDU one by one, and whether one is rejected -/
def rxTlvs (order : Registered) (v : DcbxVersion) (p : Lldpdu) (written : Bool) :
    List Tlv → DcbxMarks → DialectPort → DialectPort × Bool
  | [], _, s => (s, false)
  | tlv :: rest, m, s =>
    let (s, m, rejected) := rchange order v p written tlv m s
    if rejected then (s, true) else rxTlvs order v p written rest m s

/-- The TLVs of an LLDPDU that reach the modules -/
def Lldpdu.received (p : Lldpdu) : List Tlv :=
  { type := type1, info := [] } ::
    ((p.tlvs.map fun info => { type := type127, info := info }) ++
      if p.ends then [{ type := type0, info := [] }] else [])

/-- What the two modules see of `rxProcessFrame`, and whether the LLDPDU is rejected -/
def rxLldpdu (order : Registered) (v : DcbxVersion) (p : Lldpdu) (written : Bool)
    (s : DialectPort) : DialectPort × Bool :=
  let (s, rejected) := rxTlvs order v p written p.received {} s
  (s, rejected || !p.ends)

/-! ### The interface in time -/

/-- What happens to an interface -/
inductive DialectEvent where
  | ifup (u : IfupData)
  | ifdown (dcbMode written : Bool)
  | modeReset (dcbxHw written : Bool)
  | lldpdu (p : Lldpdu) (written : Bool)

/-- The interface after an event, and whether the event is an LLDPDU that is rejected -/
def DialectPort.next (order : Registered) (v : DcbxVersion) (s : DialectPort) :
    DialectEvent → DialectPort × Bool
  | .ifup u => (Dialect.ifup order v u s, false)
  | .ifdown dcbMode written => (Dialect.ifdown order dcbMode written s, false)
  | .modeReset dcbxHw written => (Dialect.modeReset dcbxHw written s, false)
  | .lldpdu p written => rxLldpdu order v p written s

/-- An interface that was not up since the daemon started. The shared memory may have an entry
of an earlier daemon. -/
def dialectSystem (order : Registered) (v : DcbxVersion) : System DialectPort DialectEvent where
  init s := ∃ shm, s = { shm := shm }
  step s e := .ok (s.next order v e).1

end Lldpad.Qaz.Dialect
