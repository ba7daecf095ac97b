import Lldpad.Lldp.Types

/-!
# `Lldpad.Qaz.Types`: the records of 802.1Qaz

The records of `include/lldp_8021qaz.h` and what `set_ieee_hw` hands to the driver
(`include/linux/dcbnl.h`). A table with one entry for each traffic class is a list.

A received TLV is its type and its bytes. The length is that of the bytes.

The fields that no function reads are left out: the two `pending` flags of the attributes, and
the counters of `struct ieee_pfc`.
-/

namespace Lldpad.Qaz

open Lldpad.Lldp (Bytes)

/-! ### Constants -/

def maxTcs : Nat := 8

def ouiSubSize : Nat := 4

/-- `INIT_IEEE8021QAZ_OUI` -/
def ieee8021qazOui : Bytes := [0x00, 0x80, 0xc2]

def ieee8021qazEtscfgTlv : UInt8 := 9

def ieee8021qazEtsrecTlv : UInt8 := 10

def ieee8021qazPfcTlv : UInt8 := 11

def ieee8021qazAppTlv : UInt8 := 12

def ieee8021qTsaStrict : UInt8 := 0

/-- `TYPE_0`: the end of an LLDPDU -/
def type0 : Nat := 0

/-- `TYPE_1`: the chassis ID, which an LLDPDU starts with -/
def type1 : Nat := 1

/-- `TYPE_127`: an organizationally specific TLV -/
def type127 : Nat := 127

/-- `struct unpacked_tlv` -/
structure Tlv where
  type : Nat
  info : Bytes
  deriving DecidableEq, Repr

/-! ### Objects -/

/-- `enum state` -/
inductive QazState where
  | init
  | rxRecommend
  deriving DecidableEq, Repr

/-- A table with one entry for each traffic class -/
def zeroTcs : Bytes := List.replicate maxTcs 0

/-- `struct etscfg_obj` -/
structure EtscfgObj where
  willing : Bool := false
  cbs : Bool := false
  maxTcs : UInt8 := 0
  prioMap : UInt32 := 0
  tcBw : Bytes := zeroTcs
  tsaMap : Bytes := zeroTcs
  deriving DecidableEq, Repr

/-- `struct etsrec_obj` -/
structure EtsrecObj where
  prioMap : UInt32 := 0
  tcBw : Bytes := zeroTcs
  tsaMap : Bytes := zeroTcs
  deriving DecidableEq, Repr

/-- `struct pfc_obj` -/
structure PfcObj where
  willing : Bool := false
  mbc : Bool := false
  pfcCap : UInt8 := 0
  pfcEnable : UInt8 := 0
  delay : UInt32 := 0
  deriving DecidableEq, Repr

/-- `struct ets_attrib` -/
structure EtsAttrib where
  currentState : QazState := .init
  cfgl : EtscfgObj := {}
  recl : EtsrecObj := {}
  cfgr : Option EtscfgObj := none
  recr : Option EtsrecObj := none
  deriving DecidableEq, Repr

/-- `struct pfc_attrib` -/
structure PfcAttrib where
  currentState : QazState := .init
  /-- `local` -/
  localPfc : PfcObj := {}
  /-- `remote` -/
  remotePfc : PfcObj := {}
  remoteParam : Bool := false
  deriving DecidableEq, Repr

/-- `struct dcb_app` -/
structure DcbApp where
  selector : UInt8
  priority : UInt8
  protocol : UInt16
  deriving DecidableEq, Repr

/-- `IEEE_APP_SET`, `IEEE_APP_DEL`, `IEEE_APP_DONE` -/
inductive AppHw where
  | set
  | del
  | done
  deriving DecidableEq, Repr

/-- `struct app_obj` -/
structure AppObj where
  app : DcbApp
  peer : Bool
  hw : AppHw
  deriving DecidableEq, Repr

/-- `struct ieee8021qaz_unpkd_tlvs`: the TLVs of the LLDPDU that is received -/
structure UnpkdTlvs where
  etscfg : Option Bytes := none
  etsrec : Option Bytes := none
  pfc : Option Bytes := none
  app : Option Bytes := none
  deriving DecidableEq, Repr

/-! ### The driver -/

/-- `struct ieee_ets` -/
structure IeeeEts where
  tcTxBw : Bytes
  tcRxBw : Bytes
  tcTsa : Bytes
  prioTc : Bytes
  tcRecoBw : Bytes
  tcRecoTsa : Bytes
  recoPrioTc : Bytes
  deriving DecidableEq, Repr

/-- `struct ieee_pfc` -/
structure IeeePfc where
  pfcEn : UInt8
  mbc : Bool
  delay : UInt16
  deriving DecidableEq, Repr

/-- A change of the driver's application table -/
inductive AppMsg where
  /-- `set_ieee_hw` -/
  | set (app : DcbApp)
  /-- `del_ieee_hw` -/
  | del (app : DcbApp)
  deriving DecidableEq, Repr

/-- What the driver was told: the last ETS and PFC configuration, and the changes of the
application table in order. -/
structure IeeeHw where
  ets : Option IeeeEts := none
  pfc : Option IeeePfc := none
  apps : List AppMsg := []
  /-- ghost: the number of calls of `__ieee8021qaz_app_sethw` -/
  flushes : Nat := 0
  deriving DecidableEq, Repr

/-! ### The instance of an interface -/

/-- Which TLVs are sent: `is_tlv_txdisabled` is false for the ETS configuration and for PFC,
`is_tlv_txenabled` is true for the others. -/
structure TxConfig where
  etscfg : Bool := true
  etsrec : Bool := false
  pfc : Bool := true
  app : Bool := false
  deriving DecidableEq, Repr

/-- `struct ieee8021qaz_tlvs`, and what it works on -/
structure QazTlvs where
  active : Bool := true
  pending : Bool := true
  /-- `ieee8021qazdu`: the LLDPDU had a TLV of 802.1Qaz -/
  qazdu : Bool := false
  localMac : Bytes
  remoteMac : Bytes := List.replicate Lldp.ethAlen 0
  rx : Option UnpkdTlvs := some {}
  ets : EtsAttrib := {}
  pfc : PfcAttrib := {}
  appHead : List AppObj := []
  hw : IeeeHw := {}
  /-- the settings `enableTx` of the TLVs -/
  tx : TxConfig := {}
  /-- `agent->tx.localChange`, which `somethingChangedLocal` sets -/
  localChange : Bool := false
  deriving DecidableEq, Repr

def QazTlvs.somethingChangedLocal (tlvs : QazTlvs) : QazTlvs := { tlvs with localChange := true }

end Lldpad.Qaz
