import Lldpad.Qbg.Vdp22Oui
import Lldpad.Qbg.VdpAscii

/-!
# `Lldpad.Qbg.VdpPrint`: a VSI as text

`vdp_vdpnl2str` of `qbg/vdp_ascii.c` and the function of `qbg/vdp22cisco_oui.c` that it calls. They
write with `snprintf` into a buffer of a given length, piece by piece, and stop where a piece does
not fit. What was written of that piece stays in the buffer.

The handlers of OUI data are a parameter. A handler writes its text whole, or says that it failed
(`VdpnlPrinter`).
-/

namespace Lldpad.Qbg

open Lldpad.Lib
open Lldpad.Lldp (Bytes)

/-! ### Pieces of text -/

/-- The buffer: the text that is complete, and how much room is left behind it -/
structure TextBuf where
  done : CStr
  room : Nat
  deriving DecidableEq

/-- A text that fits, with its NUL: `snprintf` and `check_and_update` -/
def TextBuf.add (b : TextBuf) (text : CStr) : TextBuf where
  done := b.done ++ text
  room := b.room - text.length

/-- `snprintf` with this much room: the text, or in the error case what is written of it -/
def snprintf (room : Nat) (text : CStr) : Except CStr CStr :=
  if text.length < room then .ok text else .error (text.take (room - 1))

/-- A key as it stands in a text -/
def keyText (key : CStr) : CStr := hexField 2 key.length ++ key

/-- A value as it stands in a text -/
def valueText (value : CStr) : CStr := hexField 4 value.length ++ value

/-- `%0Nx` for each byte -/
def hexBytes (bytes : Bytes) : CStr := bytes.flatMap fun b => hexField 2 b.toNat

/-- A string that is stored in a field of bytes -/
def fieldText (bytes : Bytes) : CStr :=
  (bytes.takeWhile (· ≠ 0)).map fun b => Char.ofNat b.toNat

/-! ### Values -/

def mode2str (x : UInt8) : CStr :=
  if x = vdp22Assoc then "assoc".toList
  else if x = vdp22Preassoc then "preassoc".toList
  else if x = vdp22PreassocWithRr then "preassoc-rr".toList
  else if x = vdp22Deassoc then "deassoc".toList
  else "unknown".toList

/-- `mgrid2str`: a field with nothing behind its first byte is a number. -/
def mgrid2str (p : VdpnlVsi) : CStr :=
  if p.vsiMgrid2.bytes.drop 1 |>.any (· ≠ 0) then fieldText p.vsiMgrid2.bytes
  else Nat.toDigits 10 (p.vsiMgrid2.bytes.getD 0 0).toNat

def vdpUuid2str (p : Octets 16) : CStr :=
  let part (start len : Nat) := hexBytes ((p.bytes.drop start).take len)
  part 0 4 ++ '-' :: part 4 2 ++ '-' :: part 6 2 ++ '-' :: part 8 2 ++ '-' :: part 10 6

/-- The VLAN that `fid2str` prints -/
def fidVlan (p : VdpnlMac) : CStr :=
  Nat.toDigits 10 (vdp22SetQos p.qos.toUInt16 ||| vdp22GetVlanid p.vlan).toNat

/-- The MAC address that `fid2str` prints -/
def fidMac (p : VdpnlMac) : CStr :=
  (p.mac.bytes.map fun b => hexField 2 b.toNat).intersperse [':'] |>.flatten

/-- The group that `fid2str` prints, with `%ld` -/
def fidGroup (p : VdpnlMac) : CStr := decimal p.gpid.toInt64.toInt

def maxGidMacVidStr : Nat := 50

/-- `tmp_buf` of `fid2str` -/
def fidValue (fif : UInt8) (p : VdpnlMac) : CStr :=
  let text :=
    if fif = vdp22FfmtVid then fidVlan p
    else if fif = vdp22FfmtMacvid then fidVlan p ++ '-' :: fidMac p
    else if fif = vdp22FfmtGroupvid then fidVlan p ++ '-' :: fidGroup p
    else if fif = vdp22FfmtGroupmacvid then fidVlan p ++ '-' :: fidMac p ++ '-' :: fidGroup p
    else []
  text.take (maxGidMacVidStr - 1)

/-- `fid2str` with this much room -/
def fid2str (room : Nat) (fif : UInt8) (p : VdpnlMac) : Except CStr CStr := do
  let key ← snprintf room (keyText "filter".toList)
  match snprintf (room - key.length) (valueText (fidValue fif p)) with
  | .ok value => pure (key ++ value)
  | .error rest => .error (key ++ rest)

/-! ### OUI data -/

/-- The function `vdpnl2str_hndlr` of a handler. With this much room it writes a text that fits, or
says that it failed, and then something may be written too. -/
structure VdpnlPrinter (δ : Type) where
  vdpnl2strHndlr : VdpnlOuiData δ → Nat → Except CStr CStr
  fits : ∀ d room text, vdpnl2strHndlr d room = .ok text → text.length < room

/-- The printing handlers by the names that are registered -/
abbrev OuiPrinters (δ : Type) := CStr → Option (VdpnlPrinter δ)

variable {δ : Type}

/-! ### Printing -/

/-- A piece that the whole text cannot do without: the answer is zero when it does not fit. -/
def putPart (b : TextBuf) (text : CStr) : Except (Nat × CStr) TextBuf :=
  match snprintf b.room text with
  | .ok text => .ok (b.add text)
  | .error rest => .error (0, b.done ++ rest)

/-- One filter. The answer is what was complete when it does not fit. -/
def putFid (fif : UInt8) (b : TextBuf) (p : VdpnlMac) : Except (Nat × CStr) TextBuf :=
  match fid2str b.room fif p with
  | .ok text => .ok (b.add text)
  | .error rest => .error (b.done.length, b.done ++ rest)

/-- One OUI entry. An entry without a handler is passed over. -/
def putOui (printers : OuiPrinters δ) (b : TextBuf) (d : VdpnlOuiData δ) :
    Except (Nat × CStr) TextBuf :=
  match printers d.ouiName with
  | none => .ok b
  | some ouiHndlr => do
    let b ← putPart b (keyText "oui".toList)
    match ouiHndlr.vdpnl2strHndlr d b.room with
    | .ok text => .ok (b.add text)
    | .error rest => .error (b.done.length, b.done ++ rest)

/-- The arguments that `vdp_vdpnl2str` prints first -/
def headArgs (p : VdpnlVsi) : List (CStr × CStr) :=
  [("mode".toList, mode2str p.request), ("mgrid2".toList, mgrid2str p),
    ("typeid".toList, Nat.toDigits 10 p.vsiTypeid.toNat),
    ("typeidver".toList, Nat.toDigits 10 p.vsiTypeversion.toNat)]

/-- The arguments that `vdp_vdpnl2str` prints next. The hints are the response of the bridge. -/
def idArgs (p : VdpnlVsi) : List (CStr × CStr) :=
  [("uuid".toList, vdpUuid2str p.vsiUuid), ("hints".toList, Nat.toDigits 10 p.response.toNat)]

/-- Arguments as they are printed -/
def printArgs (args : List (CStr × CStr)) : CStr :=
  args.flatMap fun a => keyText a.1 ++ valueText a.2

/-- `vdp_vdpnl2str` for a buffer of this length: the answer, and the text in the buffer -/
def vdpVdpnl2str (printers : OuiPrinters δ) (p : VdpnlVsi) (ouiList : List (VdpnlOuiData δ))
    (length : Nat) : Nat × CStr :=
  let b : Except (Nat × CStr) TextBuf := do
    let b ← putPart { done := [], room := length } (printArgs (headArgs p))
    let b ← putPart b (printArgs (idArgs p))
    let b ← p.maclist.foldlM (putFid p.filterFmt) b
    ouiList.foldlM (putOui printers) b
  match b with
  | .ok b => (b.done.length, b.done)
  | .error r => r

/-! ### Cisco -/

def maxOuiDataLen : Nat := 200

/-- `ipv4_address.s_addr` as the number that is printed -/
def ipv4Num (oui : VdpCiscoOui) : Nat :=
  oui.l3Addr.bytes.foldr (fun b n => b.toNat + 256 * n) 0

/-- The text that `cisco_vdpnl2str_hndlr` puts together in `tmp_out_buf`, where a part that does
not fit fails -/
def ciscoOuiText (oui : VdpCiscoOui) : Except CStr CStr := do
  let name := keyText "cisco".toList
  let room := maxOuiDataLen - name.length
  let vmName ←
    if oui.vmName.length ≠ 0 then
      snprintf room (keyText "vm_name".toList ++ hexField 4 oui.vmName.length ++
        fieldText oui.vmName)
    else pure []
  let room := room - vmName.length
  let vmUuid ←
    if oui.uuidSet then
      snprintf room (keyText "vm_uuid".toList ++ valueText (vdpUuid2str oui.uuid))
    else pure []
  let room := room - vmUuid.length
  -- the format is `%ul`: a number, and the letter
  let ipv4Addr ←
    if oui.vmAddrLen ≠ 0 then
      snprintf room
        (keyText "ipv4_addr".toList ++ valueText (Nat.toDigits 10 (ipv4Num oui) ++ ['l']))
    else pure []
  pure (name ++ vmName ++ vmUuid ++ ipv4Addr)

/-- `cisco_vdpnl2str_hndlr`. A failure before the last `snprintf` leaves nothing in the buffer. -/
def ciscoVdpnl2strHndlr (d : VdpnlOuiData VdpCiscoOui) (room : Nat) : Except CStr CStr :=
  match ciscoOuiText (d.data.getD {}) with
  | .error _ => .error []
  | .ok text => snprintf room (valueText text)

/-- The handler that Cisco registers -/
def ciscoPrinter : VdpnlPrinter VdpCiscoOui where
  vdpnl2strHndlr := ciscoVdpnl2strHndlr
  fits d room text h := by
    unfold ciscoVdpnl2strHndlr snprintf at h
    split at h
    · cases h
    · split_ifs at h with hroom
      cases h
      exact hroom

end Lldpad.Qbg
