import Lldpad.Lib.Fault
import Lldpad.Lib.Memory
import Mathlib.Logic.Function.Basic

/-!
# `Lldpad.Shm.Table`: the shared-memory table

`lldpad_shm.c`. The table survives the daemon: it holds, for a device name, what a restarted
daemon takes over. `Memory` is the mapped file, `ent` is the place of an entry in it, and a
`Field` is the place of a field in an entry. The layout is that of `struct lldpad_shm_entry`
on a 64-bit little-endian machine.

Every call opens and maps the file again; here it takes the memory and returns it. The calls
that only look at the process number are left out.

`Directory` says what the table is for: a map from device names to records, with room for a
limited number of devices.
-/

namespace Lldpad.Shm

open Lldpad.Lib

abbrev Bytes := List UInt8

/-! ### The layout -/

def lldpadShmSize : Nat := 4096

def ifNamSiz : Nat := 16

/-- `SHM_CHASSISID_LEN` and `SHM_PORTID_LEN` -/
def shmMsapLen : Nat := 32

/-- `sizeof(dcbx_state)` -/
def sizeofDcbxState : Nat := 12

/-- The two layouts of the table. -/
inductive Layout where
  | ver0
  | ver1
  deriving DecidableEq, Repr

/-- `sizeof(struct lldpad_shm_entry_ver0)` and `sizeof(struct lldpad_shm_entry)` -/
def Layout.entrySize : Layout → Nat
  | .ver0 => 104
  | .ver1 => 108

def maxLldpadShmEntries : Nat := lldpadShmSize / Layout.ver1.entrySize - 1

/-- The fields of `struct lldpad_shm_entry`; `dcbxMode` was added to version 1. -/
inductive Field where
  | ifname
  | chassisid
  | chassisidLen
  | portid
  | portidLen
  | st
  | dcbxMode
  deriving DecidableEq, Repr

/-- Where a field stands in an entry. -/
def Field.offset : Field → Nat
  | .ifname => 0
  | .chassisid => 17
  | .chassisidLen => 52
  | .portid => 56
  | .portidLen => 88
  | .st => 92
  | .dcbxMode => 104

/-- The size of a field. -/
def Field.size : Field → Nat
  | .ifname => ifNamSiz + 1
  | .chassisid | .portid => shmMsapLen
  | .chassisidLen | .portidLen => 4
  | .st => sizeofDcbxState
  | .dcbxMode => 1

/-- `&shmaddr->ent[i]` -/
def ent (v : Layout) (i : Nat) : Nat := 8 + i * v.entrySize

/-- `sizeof(struct lldpad_shm_tbl)` -/
def sizeofShmTbl : Nat := ent .ver1 maxLldpadShmEntries

/-- A field of an entry. -/
def getField (v : Layout) (m : Memory) (i : Nat) (f : Field) : Bytes :=
  m.read (ent v i + f.offset) f.size

/-- A field of an entry is written, from its start on. -/
def setField (m : Memory) (i : Nat) (f : Field) (xs : Bytes) : Memory :=
  m.write (ent .ver1 i + f.offset) xs

/-! ### The word of the version and the count -/

/-- `shmaddr->num_entries` -/
def numEntriesWord (m : Memory) : Nat := Memory.ofBytes (m.read 4 4)

/-- `shmaddr->num_entries = word` -/
def setNumEntriesWord (m : Memory) (word : Nat) : Memory := m.write 4 (Memory.toBytes 4 word)

/-- `shmaddr->num_entries & SHM_NUM_ENT_MASK` -/
def numEntries (m : Memory) : Nat := numEntriesWord m &&& 0xffff

/-- `(shmaddr->num_entries & SHM_VER_MASK) >> SHM_VER_SHIFT` -/
def version (m : Memory) : Nat := (numEntriesWord m &&& 0xffff0000) >>> 16

/-- `shmaddr->num_entries++` -/
def incNumEntries (m : Memory) : Memory :=
  setNumEntriesWord m ((numEntriesWord m + 1) % 2 ^ 32)

/-! ### Device names and values -/

/-- A C string. -/
structure DeviceName where
  bytes : Bytes
  noNul : 0 ∉ bytes
  deriving DecidableEq

theorem DeviceName.ext {a b : DeviceName} (h : a.bytes = b.bytes) : a = b := by
  cases a
  cases b
  cases h
  rfl

/-- `dcbx_state`, byte by byte: `SeqNo`, `AckNo`, three `bool`s and what fills them up -/
structure DcbxState where
  bytes : Bytes
  length_eq : bytes.length = sizeofDcbxState
  deriving DecidableEq

/-- A state of zeros. -/
def DcbxState.zero : DcbxState := ⟨List.replicate sizeofDcbxState 0, by decide⟩

/-- `strcmp(s, name) == 0`, for the string at an address -/
def strEq (m : Memory) : Nat → Bytes → Bool
  | addr, [] => m addr = 0
  | addr, c :: cs => m addr = c && strEq m (addr + 1) cs

/-- `sprintf(shmaddr->ent[i].ifname, "%.*s", IFNAMSIZ, device_name)` -/
def setIfname (m : Memory) (i : Nat) (name : DeviceName) : Memory :=
  setField m i .ifname (name.bytes.take ifNamSiz ++ [0])

/-! ### The upgrade -/

/-- `new_ent[i]`: what is copied from the old entry, and between it what the stack held. -/
def newEnt (m stack : Memory) (i : Nat) : Bytes :=
  getField .ver0 m i .ifname ++ getField .ver0 m i .chassisid ++
    stack.read (i * 108 + 49) 3 ++ getField .ver0 m i .chassisidLen ++
    getField .ver0 m i .portid ++ getField .ver0 m i .portidLen ++
    getField .ver0 m i .st ++ [0] ++ stack.read (i * 108 + 105) 3

def lldpadShmVer0ToVer1 (stack : Memory) (m : Memory) (numOldEntries : Nat) : Memory :=
  let numEntries := if numOldEntries > maxLldpadShmEntries then maxLldpadShmEntries
    else numOldEntries
  let m := setNumEntriesWord m ((numEntries &&& 0xffff) ||| 1 <<< 16)
  m.writeBlocks 8 108 (newEnt m stack) numEntries

/-- What every call that may write begins with. -/
def upgraded (stack : Memory) (m : Memory) : Memory :=
  if version m = 0 then lldpadShmVer0ToVer1 stack m (numEntries m) else m

/-! ### The calls -/

/-- The loop that looks for an entry: its number, or the number of entries. -/
def searchEnt (m : Memory) (name : DeviceName) : Nat :=
  ((List.range (numEntries m)).find? fun i => strEq m (ent .ver1 i) name.bytes).getD (numEntries m)

/-- The fields of a TLV type: the value and its length. -/
def msapFields (type : Int) : Option (Field × Field) :=
  if type = 1 then some (.chassisid, .chassisidLen)
  else if type = 2 then some (.portid, .portidLen)
  else none

/-- `*len` is read, and `memcpy(info, p, *len)` unless it is zero. Neither may go behind the
table. -/
def copyInfo (m : Memory) (i : Nat) (value length : Field) : Except Fault (Option Bytes) :=
  if i < maxLldpadShmEntries then
    let p := ent .ver1 i + value.offset
    let len := Memory.ofBytes (getField .ver1 m i length)
    if len = 0 then .ok none
    else if p + len ≤ sizeofShmTbl then .ok (some (m.read p len))
    else .error .outOfBounds
  else .error .outOfBounds

/-- `lldpad_shm_get_msap`. The end test compares with the whole word, version and all, so that
the entry behind the last one is looked at for a device that is not in the table. -/
def lldpadShmGetMsap (stack m : Memory) (name : DeviceName) (type : Int) :
    Except Fault (Memory × Option Bytes) :=
  let m := upgraded stack m
  if numEntries m > maxLldpadShmEntries then .ok (m, none)
  else
    let i := searchEnt m name
    if i = numEntriesWord m then .ok (m, none)
    else
      match msapFields type with
      | none => .ok (m, none)
      | some (value, length) => do
        let info ← copyInfo m i value length
        pure (m, info)

def lldpadShmSetMsap (stack m : Memory) (name : DeviceName) (type : Int) (info : Bytes) :
    Memory × Bool :=
  let m := upgraded stack m
  if numEntries m > maxLldpadShmEntries then (m, false)
  else
    let i := searchEnt m name
    if i < maxLldpadShmEntries then
      match msapFields type with
      | none => (m, false)
      | some (value, length) =>
        if info.length ≤ shmMsapLen then
          let isNew := i = numEntries m
          let m := setField m i value (List.replicate shmMsapLen 0)
          let m := setField m i value info
          let m := setField m i length (Memory.toBytes 4 info.length)
          if isNew then (setIfname (incNumEntries m) i name, true) else (m, true)
        else (m, false)
    else (m, false)

/-- `lldpad_shm_get_dcbx`: the mode of the last entry with the name that has one. Zero is the
automatic mode. -/
def lldpadShmGetDcbx (m : Memory) (name : DeviceName) : Nat :=
  if version m = 0 then 0
  else if numEntries m > maxLldpadShmEntries then 0
  else
    (List.range (numEntries m)).foldl
      (fun rval i =>
        if strEq m (ent .ver1 i) name.bytes then
          let mode := Memory.ofBytes (getField .ver1 m i .dcbxMode)
          if mode = 1 ∨ mode = 2 then mode else rval
        else rval) 0

def lldpadShmSetDcbx (stack m : Memory) (name : DeviceName) (dcbxMode : Int) : Memory × Bool :=
  let m := upgraded stack m
  if numEntries m > maxLldpadShmEntries then (m, false)
  else if dcbxMode ≠ 0 ∧ dcbxMode ≠ 1 ∧ dcbxMode ≠ 2 then (m, false)
  else
    let i := searchEnt m name
    if i < numEntries m then (setField m i .dcbxMode (Memory.toBytes 1 dcbxMode.toNat), true)
    else if i < maxLldpadShmEntries then
      let m := setIfname (incNumEntries m) i name
      let m := setField m i .chassisid (List.replicate shmMsapLen 0)
      let m := setField m i .chassisidLen (Memory.toBytes 4 0)
      let m := setField m i .portid (List.replicate shmMsapLen 0)
      let m := setField m i .portidLen (Memory.toBytes 4 0)
      let m := setField m i .st DcbxState.zero.bytes
      (setField m i .dcbxMode (Memory.toBytes 1 dcbxMode.toNat), true)
    else (m, false)

def setDcbxState (stack m : Memory) (name : DeviceName) (state : DcbxState) : Memory × Bool :=
  let m := upgraded stack m
  if numEntries m > maxLldpadShmEntries then (m, false)
  else
    let i := searchEnt m name
    if i < maxLldpadShmEntries then
      let m := if i = numEntries m then setIfname (incNumEntries m) i name else m
      (setField m i .st state.bytes, true)
    else (m, false)

/-- `get_dcbx_state`: the state is cleared after getting it. -/
def getDcbxState (stack m : Memory) (name : DeviceName) : Memory × Option DcbxState :=
  let m := upgraded stack m
  if numEntries m > maxLldpadShmEntries then (m, none)
  else
    let i := searchEnt m name
    if i < numEntries m then
      (setField m i .st DcbxState.zero.bytes, some ⟨getField .ver1 m i .st, Memory.length_read ..⟩)
    else (m, none)

/-- `clear_dcbx_state`; entries without a name are not cleared. -/
def clearDcbxState (stack m : Memory) : Memory :=
  let m := upgraded stack m
  if numEntries m > maxLldpadShmEntries then m
  else
    (List.range (numEntries m)).foldl
      (fun m i => if m (ent .ver1 i) ≠ 0 then setField m i .st DcbxState.zero.bytes else m) m

/-! ### Sequences of calls -/

/-- The calls on the table. -/
inductive Call where
  | setMsap (name : DeviceName) (type : Int) (info : Bytes)
  | getMsap (name : DeviceName) (type : Int)
  | setDcbx (name : DeviceName) (dcbxMode : Int)
  | getDcbx (name : DeviceName)
  | setState (name : DeviceName) (state : DcbxState)
  | getState (name : DeviceName)
  | clearState
  deriving DecidableEq

/-- What a call returns. -/
inductive Answer where
  | done (rval : Bool)
  | msap (info : Option Bytes)
  | dcbx (dcbxMode : Nat)
  | state (state : Option DcbxState)
  deriving DecidableEq

/-- One call on the table. -/
def call (stack m : Memory) : Call → Except Fault (Memory × Answer)
  | .setMsap name type info =>
    let r := lldpadShmSetMsap stack m name type info
    .ok (r.1, .done r.2)
  | .getMsap name type => do
    let r ← lldpadShmGetMsap stack m name type
    pure (r.1, .msap r.2)
  | .setDcbx name dcbxMode =>
    let r := lldpadShmSetDcbx stack m name dcbxMode
    .ok (r.1, .done r.2)
  | .getDcbx name => .ok (m, .dcbx (lldpadShmGetDcbx m name))
  | .setState name state =>
    let r := setDcbxState stack m name state
    .ok (r.1, .done r.2)
  | .getState name =>
    let r := getDcbxState stack m name
    .ok (r.1, .state r.2)
  | .clearState => .ok (clearDcbxState stack m, .done true)

/-- A sequence of calls on the table. -/
def calls (stack : Memory) : Memory → List Call → Except Fault (Memory × List Answer)
  | m, [] => .ok (m, [])
  | m, c :: cs => do
    let (m, answer) ← call stack m c
    let (m, answers) ← calls stack m cs
    pure (m, answer :: answers)

/-! ### What the table is for -/

/-- What is known of a device. An empty identity stands for none. -/
structure Record where
  chassis : Bytes := []
  port : Bytes := []
  dcbxMode : Nat := 0
  state : DcbxState := .zero
  deriving DecidableEq

/-- A map from device names to records, with room for `maxLldpadShmEntries` devices. -/
structure Directory where
  record : DeviceName → Option Record
  size : Nat

/-- The record of a device is changed, a new device gets one. There is no answer when there is
no room for it. -/
def Directory.update (d : Directory) (name : DeviceName) (f : Record → Record) :
    Option Directory :=
  match d.record name with
  | some r => some { d with record := Function.update d.record name (some (f r)) }
  | none =>
    if d.size < maxLldpadShmEntries then
      some { record := Function.update d.record name (some (f {})), size := d.size + 1 }
    else none

/-- The identity of a TLV type. -/
def Record.msap (r : Record) (type : Int) : Option Bytes :=
  if type = 1 then some r.chassis else if type = 2 then some r.port else none

/-- The identity of a TLV type is set. -/
def Record.setMsap (r : Record) (info : Bytes) (type : Int) : Record :=
  if type = 1 then { r with chassis := info } else { r with port := info }

/-- One call on the directory. A state is handed out once (`once`) or as often as it is asked
for. -/
def Directory.call (once : Bool) (d : Directory) : Call → Directory × Answer
  | .setMsap name type info =>
    if (type = 1 ∨ type = 2) ∧ info.length ≤ shmMsapLen then
      match d.update name fun r => r.setMsap info type with
      | some d' => (d', .done true)
      | none => (d, .done false)
    else (d, .done false)
  | .getMsap name type =>
    (d, .msap (((d.record name).bind fun r => r.msap type).filter fun info => info ≠ []))
  | .setDcbx name dcbxMode =>
    if dcbxMode = 0 ∨ dcbxMode = 1 ∨ dcbxMode = 2 then
      match d.update name fun r => { r with dcbxMode := dcbxMode.toNat } with
      | some d' => (d', .done true)
      | none => (d, .done false)
    else (d, .done false)
  | .getDcbx name =>
    let mode := ((d.record name).map (·.dcbxMode)).getD 0
    (d, .dcbx (if mode = 1 ∨ mode = 2 then mode else 0))
  | .setState name state =>
    match d.update name fun r => { r with state := state } with
    | some d' => (d', .done true)
    | none => (d, .done false)
  | .getState name =>
    match d.record name with
    | some r =>
      (if once then
          { d with record := Function.update d.record name (some { r with state := .zero }) }
        else d, .state (some r.state))
    | none => (d, .state none)
  | .clearState =>
    ({ d with record := fun name =>
        if name.bytes ≠ [] then (d.record name).map fun r => { r with state := .zero }
        else d.record name }, .done true)

/-- A sequence of calls on the directory. -/
def Directory.calls (once : Bool) : Directory → List Call → Directory × List Answer
  | d, [] => (d, [])
  | d, c :: cs =>
    let (d, answer) := d.call once c
    let (d, answers) := d.calls once cs
    (d, answer :: answers)

end Lldpad.Shm
