import Lldpad.Qbg.CiscoOui
import Lldpad.Proofs.Qbg.PrintedValues

/-!
# `Lldpad.Proofs.Qbg.CiscoText`: Cisco's OUI data, printed and read

`cisco_read_iff` says which data `cisco_str2vdpnl_hndlr` reads back from the text that
`cisco_vdpnl2str_hndlr` prints: those without an address, since an address is printed as one number
with a letter behind it, and with a UUID only where nothing but a NUL stands behind its copy.

* `ciscoLoop_field`: one turn of the loop, at a key and a value as they are printed.
* `ciscoOuiText_of_fits`, `ciscoOuiText_of_not_fits`: the text is printed whole, or not at all.
-/

namespace Lldpad.Qbg

open Lldpad.Lib
open Lldpad.Lldp (Bytes)

/-! ### What is printed -/

/-- A key and a value of the text -/
def fieldArg (key : String) (value : CStr) : CStr := keyText key.toList ++ valueText value

/-- An address as it is printed -/
def addrText (oui : VdpCiscoOui) : CStr := Nat.toDigits 10 (ipv4Num oui) ++ ['l']

/-- What is printed behind the name -/
def ciscoBody (oui : VdpCiscoOui) : CStr :=
  (if oui.vmName.length ≠ 0 then
    keyText "vm_name".toList ++ hexField 4 oui.vmName.length ++ fieldText oui.vmName else []) ++
  (if oui.uuidSet then fieldArg "vm_uuid" (vdpUuid2str oui.uuid) else []) ++
  (if oui.vmAddrLen ≠ 0 then fieldArg "ipv4_addr" (addrText oui) else [])

/-- The text that the handler puts together -/
def ciscoWhole (oui : VdpCiscoOui) : CStr := keyText "cisco".toList ++ ciscoBody oui

variable {oui : VdpCiscoOui}

/-- A part that fits, if it is printed at all, before all that comes behind it -/
theorem part_of_fits (c : Prop) [Decidable c] (text : CStr) {room : Nat}
    (next : CStr → Except CStr CStr) (h : (if c then text else []).length < room) :
    (if c then snprintf room text >>= next else pure [] >>= next) =
      next (if c then text else []) := by
  split_ifs at h ⊢
  · unfold snprintf
    rw [if_pos h, bind_ok]
  · rfl

theorem part_of_not_fits (c : Prop) [Decidable c] (text : CStr) {room : Nat}
    (next : CStr → Except CStr CStr) (hroom : 0 < room)
    (h : ¬(if c then text else []).length < room) :
    ∃ rest, (if c then snprintf room text >>= next else pure [] >>= next) = .error rest := by
  split_ifs at h ⊢
  · unfold snprintf
    rw [if_neg h]
    exact ⟨_, rfl⟩
  · exact absurd hroom h

theorem ciscoOuiText_of_fits (h : (ciscoWhole oui).length < maxOuiDataLen) :
    ciscoOuiText oui = .ok (ciscoWhole oui) := by
  unfold ciscoWhole ciscoBody fieldArg addrText at h ⊢
  simp only [List.length_append] at h
  unfold ciscoOuiText
  dsimp only
  rw [part_of_fits _ _ _ (by omega), part_of_fits _ _ _ (by omega), part_of_fits _ _ _ (by omega)]
  simp only [List.append_assoc]
  rfl

theorem ciscoOuiText_of_not_fits (h : ¬(ciscoWhole oui).length < maxOuiDataLen) :
    ∃ rest, ciscoOuiText oui = .error rest := by
  have hname : (keyText "cisco".toList).length < maxOuiDataLen := by decide
  unfold ciscoWhole ciscoBody fieldArg addrText at h
  simp only [List.length_append] at h
  unfold ciscoOuiText
  dsimp only
  generalize keyText "cisco".toList = name at h hname ⊢
  -- The first part that does not fit ends it.
  by_cases hvmName : (if oui.vmName.length ≠ 0 then keyText "vm_name".toList ++
      hexField 4 oui.vmName.length ++ fieldText oui.vmName else []).length <
        maxOuiDataLen - name.length
  swap
  · exact part_of_not_fits _ _ _ (by omega) hvmName
  rw [part_of_fits _ _ _ hvmName]
  generalize (if oui.vmName.length ≠ 0 then keyText "vm_name".toList ++
      hexField 4 oui.vmName.length ++ fieldText oui.vmName else []) = vmName at h hvmName ⊢
  by_cases huuid : (if oui.uuidSet then keyText "vm_uuid".toList ++
      valueText (vdpUuid2str oui.uuid) else []).length <
        maxOuiDataLen - name.length - vmName.length
  swap
  · exact part_of_not_fits _ _ _ (by omega) huuid
  rw [part_of_fits _ _ _ huuid]
  exact part_of_not_fits _ _ _ (by omega) (by omega)

theorem ciscoPrinter_of_fits {d : VdpnlOuiData VdpCiscoOui} {room : Nat}
    (htmp : (ciscoWhole (d.data.getD {})).length < maxOuiDataLen)
    (h : (valueText (ciscoWhole (d.data.getD {}))).length < room) :
    ciscoPrinter.vdpnl2strHndlr d room = .ok (valueText (ciscoWhole (d.data.getD {}))) := by
  show ciscoVdpnl2strHndlr d room = _
  unfold ciscoVdpnl2strHndlr
  rw [ciscoOuiText_of_fits htmp]
  exact if_pos h

theorem ciscoPrinter_ok {d : VdpnlOuiData VdpCiscoOui} {room : Nat} {text : CStr}
    (h : ciscoPrinter.vdpnl2strHndlr d room = .ok text) :
    (ciscoWhole (d.data.getD {})).length < maxOuiDataLen ∧
      (valueText (ciscoWhole (d.data.getD {}))).length < room ∧
      text = valueText (ciscoWhole (d.data.getD {})) := by
  have hrun : ciscoVdpnl2strHndlr d room = .ok text := h
  unfold ciscoVdpnl2strHndlr at hrun
  by_cases htmp : (ciscoWhole (d.data.getD {})).length < maxOuiDataLen
  · rw [ciscoOuiText_of_fits htmp] at hrun
    unfold snprintf at hrun
    dsimp only at hrun
    split_ifs at hrun with hroom
    cases hrun
    exact ⟨htmp, hroom, rfl⟩
  · obtain ⟨rest, hrest⟩ := ciscoOuiText_of_not_fits htmp
    rw [hrest] at hrun
    cases hrun

/-! ### What is read -/

/-- One turn of the loop, at a key and a value as they are printed -/
theorem ciscoLoop_field (mem : CiscoMem) (s : CiscoText) {key : String} {value : CStr}
    (hkey : key.toList.length < 256) (hvalue : value.length < 65536) (rest : CStr) :
    ciscoLoop mem s (fieldArg key value ++ rest) =
      match ciscoTake mem { s with keyLen := key.toList.length, dataLen := value.length }
          (getOuiKey (key.toList ++ (valueText value ++ rest)) key.toList.length) value with
      | .error fault => .error fault
      | .ok none => .ok none
      | .ok (some (s, false)) => .ok (some s.oui)
      | .ok (some (s, true)) => ciscoLoop mem s rest := by
  have htwo : (hexField 2 key.toList.length).length = 2 :=
    length_hexField (by decide) (show key.toList.length < 16 ^ 2 from hkey)
  have hfour : (hexField 4 value.length).length = 4 :=
    length_hexField (by decide) (show value.length < 16 ^ 4 from hvalue)
  generalize htoken : fieldArg key value ++ rest = token
  have hwhole : token = hexField 2 key.toList.length ++ (key.toList ++ (hexField 4 value.length ++
      (value ++ rest))) := by
    rw [← htoken]
    unfold fieldArg keyText valueText
    simp only [List.append_assoc]
  have hkeyLen : hexNat 1 token s.keyLen = key.toList.length := by
    rw [hwhole]
    exact hexNat_hexField (by decide) hkey _ _
  have hdropKey : token.drop 2 = key.toList ++ (hexField 4 value.length ++ (value ++ rest)) := by
    rw [hwhole]
    exact List.drop_left' htwo
  have hdropLen : token.drop (2 + key.toList.length) =
      hexField 4 value.length ++ (value ++ rest) := by
    rw [← List.drop_drop, hdropKey, List.drop_left]
  have hdataLen : hexNat 2 (token.drop (2 + key.toList.length)) s.dataLen = value.length := by
    rw [hdropLen]
    exact hexNat_hexField (by decide) hvalue _ _
  have hdropData : token.drop (2 + key.toList.length + 4) = value ++ rest := by
    rw [← List.drop_drop, hdropLen]
    exact List.drop_left' hfour
  have hdropRest : token.drop (2 + key.toList.length + 4 + value.length) = rest := by
    rw [← List.drop_drop, hdropData, List.drop_left]
  have hlen : token.length = 2 + key.toList.length + 4 + value.length + rest.length := by
    rw [hwhole]
    simp only [List.length_append, htwo, hfour]
    omega
  have hne : token ≠ [] := by
    intro hnil
    rw [hnil] at hlen
    simp only [List.length_nil] at hlen
    omega
  rw [ciscoLoop, if_neg hne, hkeyLen]
  dsimp only
  rw [hdataLen, if_neg (by omega), hdropData, List.take_left, hdropKey, hdropRest]
  unfold valueText
  simp only [List.append_assoc] <;> rfl

theorem ciscoLoop_nil (mem : CiscoMem) (s : CiscoText) : ciscoLoop mem s [] = .ok (some s.oui) := by
  rw [ciscoLoop, if_pos rfl]

theorem getOuiKey_whole {key : String} (rest : CStr) : getOuiKey (key.toList ++ rest)
    key.toList.length =
      ((ouiKeyHandle.find? fun h => key.toList = h.1.take key.toList.length).map
        Prod.snd).getD .invalid := by
  unfold getOuiKey
  rw [List.take_left]
  simp

theorem ciscoLoop_name (mem : CiscoMem) (s : CiscoText) {value : CStr} (rest : CStr)
    (hflag : s.vmNameFlag = false) (hvalue : value.length < maxVmName) :
    ciscoLoop mem s (fieldArg "vm_name" value ++ rest) =
      ciscoLoop mem { s with
        keyLen := "vm_name".toList.length
        dataLen := value.length
        vmNameFlag := true
        oui.vmName := textBytes value } rest := by
  have hkey : getOuiKey ("vm_name".toList ++ (valueText value ++ rest)) "vm_name".toList.length =
      .name := by
    rw [getOuiKey_whole]
    decide
  have hlt : value.length < 100 := hvalue
  rw [ciscoLoop_field mem s (by decide) (by omega), hkey]
  unfold ciscoTake
  rw [hflag, if_neg Bool.false_ne_true, if_neg (by omega)]

theorem ciscoLoop_uuid (mem : CiscoMem) (s : CiscoText) (u : Octets 16) (rest : CStr) :
    ciscoLoop mem s (fieldArg "vm_uuid" (vdpUuid2str u) ++ rest) =
      ciscoLoop mem { s with
        keyLen := "vm_uuid".toList.length
        dataLen := 36
        oui.uuid := if mem.behind 36 = [] then u else .zero 16
        oui.uuidSet := mem.behind 36 = [] } rest := by
  have hkey : getOuiKey ("vm_uuid".toList ++ (valueText (vdpUuid2str u) ++ rest))
      "vm_uuid".toList.length = .nameUuid := by
    rw [getOuiKey_whole]
    decide
  have hlen := length_vdpUuid2str u
  rw [ciscoLoop_field mem s (by decide) (by omega), hkey, hlen]
  unfold ciscoTake
  rw [hlen]
  by_cases hbehind : mem.behind 36 = []
  · rw [hbehind, List.append_nil, vdpStr2uuid_printed]
    rfl
  · have hrefused := vdpStr2uuid_longer s.oui.uuid u hbehind
    simp [hrefused, hbehind]

/-! ### Addresses -/

theorem ipv4Num_lt (oui : VdpCiscoOui) : ipv4Num oui < 2 ^ 32 := by
  have hbound (bytes : Bytes) :
      bytes.foldr (fun b n => b.toNat + 256 * n) 0 < 256 ^ bytes.length := by
    induction bytes with
    | nil => decide
    | cons b bytes ih =>
      have hb := b.toNat_lt
      rw [List.foldr_cons, List.length_cons, Nat.pow_succ]
      omega
  have h := hbound oui.l3Addr.bytes
  rw [oui.l3Addr.length_eq] at h
  exact h

theorem digitValue_l {base : Nat} : digitValue base 'l' = none := by
  unfold digitValue
  simp

/-- A letter ends the digits. -/
theorem readDigits_before {base n acc : Nat} {s : CStr} (h : readDigits base acc s = (n, []))
    (rest : CStr) : readDigits base acc (s ++ 'l' :: rest) = (n, 'l' :: rest) := by
  induction s generalizing acc with
  | nil =>
    rw [List.nil_append, readDigits, digitValue_l]
    rw [readDigits] at h
    cases h
    rfl
  | cons c s ih =>
    rw [readDigits] at h
    rw [List.cons_append, readDigits]
    cases hc : digitValue base c with
    | none =>
      rw [hc] at h
      cases h
    | some d =>
      rw [hc] at h
      exact ih h

theorem inetAtonNum_printed (n : Nat) (rest : CStr) :
    inetAtonNum (Nat.toDigits 10 n ++ 'l' :: rest) = some (n, 'l' :: rest) := by
  obtain ⟨b, hchoose, hread⟩ := chooseBase_toDigits (.inr rfl) n
  obtain ⟨c, s, hs, hdigit, hc⟩ := exists_toDigits n
  have hten {t : CStr} (hne : c ≠ '0') : chooseBase 0 (c :: t) = (10, c :: t) := by
    unfold chooseBase
    split <;> simp_all
  have hbase : chooseBase 0 (Nat.toDigits 10 n ++ 'l' :: rest) =
      (b, Nat.toDigits 10 n ++ 'l' :: rest) := by
    by_cases hn : n = 0
    · -- A zero is octal, also before a letter that is no `x`.
      subst hn
      have hb : 8 = b := congrArg Prod.fst hchoose
      show chooseBase 0 ('0' :: 'l' :: rest) = (b, '0' :: 'l' :: rest)
      rw [← hb]
      unfold chooseBase
      cases rest <;> simp
    · have hne : c ≠ '0' := fun hzero => hn (hc hzero)
      rw [hs, hten hne] at hchoose
      have hb : 10 = b := congrArg Prod.fst hchoose
      rw [hs, List.cons_append, hten hne, hb]
  unfold inetAtonNum
  rw [hbase]
  dsimp only
  rw [readDigits_before hread, if_pos]
  rw [hs]
  exact hdigit

theorem inetAton_printed (oui : VdpCiscoOui) (rest : CStr) :
    inetAton (addrText oui ++ rest) = none := by
  have htext : addrText oui ++ rest = Nat.toDigits 10 (ipv4Num oui) ++ 'l' :: rest := by
    unfold addrText
    rw [List.append_assoc]
    rfl
  unfold inetAton
  rw [htext, inetAtonLoop, inetAtonNum_printed]
  rfl

theorem ciscoLoop_addr (mem : CiscoMem) (s : CiscoText) (oui : VdpCiscoOui) (rest : CStr)
    (hflag : s.l3AddrFlag = false) :
    ciscoLoop mem s (fieldArg "ipv4_addr" (addrText oui) ++ rest) = .ok none := by
  have hkey : getOuiKey ("ipv4_addr".toList ++ (valueText (addrText oui) ++ rest))
      "ipv4_addr".toList.length = .l3v4addr := by
    rw [getOuiKey_whole]
    decide
  have hlen : (addrText oui).length < 65536 := by
    have hle := length_toDigits_le (k := 9) (Nat.lt_trans (ipv4Num_lt oui) (by decide))
    unfold addrText
    rw [List.length_append, List.length_singleton]
    omega
  rw [ciscoLoop_field mem s (by decide) hlen, hkey]
  unfold ciscoTake
  rw [hflag, if_neg Bool.false_ne_true, inetAton_printed]

/-! ### The pair -/

/-- A name as the array holds it: its characters, and a NUL behind them -/
def NameHolds (oui : VdpCiscoOui) : Prop := 0 ∉ oui.vmName ∧ oui.vmName.length < maxVmName

/-- The data that are printed as they are read: a UUID with a NUL behind its copy, and no address -/
structure CiscoPrints (mem : CiscoMem) (oui : VdpCiscoOui) : Prop where
  uuid : if oui.uuidSet then mem.behind 36 = [] else oui.uuid = .zero 16
  noAddr : oui.vmAddrLen = 0
  l3Addr : oui.l3Addr = .zero 4

theorem fieldText_name (h : (0 : UInt8) ∉ oui.vmName) :
    (fieldText oui.vmName).length = oui.vmName.length ∧
      textBytes (fieldText oui.vmName) = oui.vmName := by
  have hwhole : oui.vmName.takeWhile (· ≠ 0) = oui.vmName := by
    rw [List.takeWhile_eq_self_iff]
    intro b hb
    exact decide_eq_true fun hzero => h (hzero ▸ hb)
  unfold fieldText
  rw [hwhole]
  refine ⟨List.length_map .., ?_⟩
  unfold textBytes
  rw [List.map_map]
  refine (List.map_congr_left fun b _ => ?_).trans (List.map_id _)
  have hvalid : b.toNat.isValidChar := .inl (Nat.lt_trans b.toNat_lt (by decide))
  have hsame : (Char.ofNat b.toNat).toNat = b.toNat := by
    unfold Char.ofNat
    rw [dif_pos hvalid]
    rfl
  show UInt8.ofNat (Char.ofNat b.toNat).toNat = b
  rw [hsame]
  exact UInt8.ofNat_toNat

theorem name_taken (mem : CiscoMem) (h : NameHolds oui) (s : CiscoText)
    (hflag : s.vmNameFlag = false) (hname : s.oui.vmName = []) (rest : CStr) :
    ∃ t, ciscoLoop mem s ((if oui.vmName.length ≠ 0 then
          keyText "vm_name".toList ++ hexField 4 oui.vmName.length ++ fieldText oui.vmName
        else []) ++ rest) = ciscoLoop mem t rest ∧
      t.oui = { s.oui with vmName := oui.vmName } ∧ t.l3AddrFlag = s.l3AddrFlag := by
  obtain ⟨hlen, hbytes⟩ := fieldText_name h.1
  split_ifs with hsome
  · have htext : keyText "vm_name".toList ++ hexField 4 oui.vmName.length ++
        fieldText oui.vmName = fieldArg "vm_name" (fieldText oui.vmName) := by
      unfold fieldArg valueText
      rw [hlen, List.append_assoc]
    rw [htext, ciscoLoop_name mem s rest hflag (by rw [hlen]; exact h.2)]
    exact ⟨_, rfl, by rw [hbytes], rfl⟩
  · have hnil : oui.vmName = [] := List.eq_nil_of_length_eq_zero (not_not.mp hsome)
    refine ⟨s, rfl, ?_, rfl⟩
    rw [hnil, ← hname]

theorem uuid_taken (mem : CiscoMem) (oui : VdpCiscoOui) (s : CiscoText)
    (huuid : s.oui.uuid = .zero 16) (hset : s.oui.uuidSet = false) (rest : CStr) :
    ∃ t, ciscoLoop mem s
        ((if oui.uuidSet then fieldArg "vm_uuid" (vdpUuid2str oui.uuid) else []) ++ rest) =
          ciscoLoop mem t rest ∧
      t.oui = { s.oui with
        uuid := if oui.uuidSet ∧ mem.behind 36 = [] then oui.uuid else .zero 16
        uuidSet := oui.uuidSet ∧ mem.behind 36 = [] } ∧ t.l3AddrFlag = s.l3AddrFlag := by
  by_cases hsome : oui.uuidSet = true
  · rw [if_pos hsome, ciscoLoop_uuid]
    refine ⟨_, rfl, ?_, rfl⟩
    simp only [hsome, true_and]
  · rw [if_neg hsome]
    refine ⟨s, rfl, ?_, rfl⟩
    simp only [hsome, false_and, if_false, decide_false, Bool.false_eq_true]
    rw [← huuid, ← hset]

/-- What the reader makes of the text: the UUID counts when a NUL stands behind its copy, and an
address is refused. -/
theorem cisco_read (mem : CiscoMem) (h : NameHolds oui) :
    ciscoStr2vdpnlHndlr mem (ciscoBody oui) =
      if oui.vmAddrLen = 0 then .ok (some { oui with
        uuid := if oui.uuidSet ∧ mem.behind 36 = [] then oui.uuid else .zero 16
        uuidSet := oui.uuidSet ∧ mem.behind 36 = []
        l3Addr := .zero 4 })
      else .ok none := by
  unfold ciscoStr2vdpnlHndlr ciscoBody
  rw [List.append_assoc]
  obtain ⟨s, hs, hname, hflag⟩ :=
    name_taken mem h { keyLen := mem.keyLen, dataLen := mem.dataLen } rfl rfl
      ((if oui.uuidSet then fieldArg "vm_uuid" (vdpUuid2str oui.uuid) else []) ++
        if oui.vmAddrLen ≠ 0 then fieldArg "ipv4_addr" (addrText oui) else [])
  obtain ⟨t, ht, huuid, htflag⟩ := uuid_taken mem oui s (by rw [hname]) (by rw [hname])
    (if oui.vmAddrLen ≠ 0 then fieldArg "ipv4_addr" (addrText oui) else [])
  rw [hs, ht]
  by_cases haddr : oui.vmAddrLen = 0
  · have hafi : oui.afi = 0 := by
      rcases oui.addr_ok with ⟨hafi, -⟩ | ⟨-, hfour⟩
      · exact hafi
      · rw [haddr] at hfour
        exact absurd hfour (by decide)
    rw [if_neg (not_not.mpr haddr), if_pos haddr, ciscoLoop_nil, huuid, hname]
    simp only [hafi, haddr]
  · have hrefused := ciscoLoop_addr mem t oui [] (htflag.trans hflag)
    rw [List.append_nil] at hrefused
    rw [if_pos haddr, if_neg haddr, hrefused]

/-- The data that are read back from their text -/
theorem cisco_read_iff (mem : CiscoMem) (h : NameHolds oui) :
    ciscoStr2vdpnlHndlr mem (ciscoBody oui) = .ok (some oui) ↔ CiscoPrints mem oui := by
  have hvalues {uuid : Octets 16} {uuidSet : Bool} {l3Addr : Octets 4} :
      { oui with uuid, uuidSet, l3Addr } = oui ↔
        oui.uuid = uuid ∧ oui.uuidSet = uuidSet ∧ oui.l3Addr = l3Addr := by
    cases oui
    simp [eq_comm]
  have hprints : CiscoPrints mem oui ↔
      (if oui.uuidSet then mem.behind 36 = [] else oui.uuid = .zero 16) ∧ oui.vmAddrLen = 0 ∧
        oui.l3Addr = .zero 4 :=
    ⟨fun h => ⟨h.uuid, h.noAddr, h.l3Addr⟩, fun h => ⟨h.1, h.2.1, h.2.2⟩⟩
  rw [cisco_read mem h, hprints]
  by_cases haddr : oui.vmAddrLen = 0
  · rw [if_pos haddr, Except.ok.injEq, Option.some.injEq, hvalues]
    by_cases hset : oui.uuidSet = true
    · by_cases hbehind : mem.behind 36 = [] <;> simp [hset, hbehind, haddr]
    · simp [hset, haddr]
  · rw [if_neg haddr]
    simp [haddr]

end Lldpad.Qbg
