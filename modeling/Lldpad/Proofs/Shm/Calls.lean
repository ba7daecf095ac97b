import Lldpad.Proofs.Shm.Directory

/-!
# `Lldpad.Proofs.Shm.Calls`: the calls answer as the directory does

* `set_msap_refines`, `set_dcbx_refines`, `set_state_refines`: a call that sets something.
* `get_msap_refines`, `get_dcbx_refines`, `get_state_refines`: a call that asks for something.
* `calls_directory`: every sequence of calls answers as the directory does, for names that fit
  and where `get_msap` does not look behind the table.
* `not_directory`: a state that is read twice, a name that is too long, and data behind the
  entries: what the directory does differently there.
-/

namespace Lldpad.Shm

open Lldpad.Lib

/-! ### The entry that is written -/

variable {m m' : Memory} {i : Nat} {name : DeviceName}

theorem take_setField {f : Field} {xs : Bytes} (h : xs.length ≤ f.size) :
    (getField .ver1 (setField m i f xs) i f).take xs.length = xs := by
  rw [getField, Memory.take_read _ _ h, setField]
  exact Memory.read_write_self ..

theorem nameAt_setIfname (h : name.bytes.length ≤ ifNamSiz) :
    nameAt .ver1 (setIfname m i name) i = name.bytes := by
  have hlen : (name.bytes ++ [0]).length ≤ Field.ifname.size := by
    rw [List.length_append]
    exact Nat.succ_le_succ h
  have hstart := take_setField (m := m) (i := i) hlen
  rw [setIfname, List.take_of_length_le h, nameAt]
  generalize getField .ver1 _ i .ifname = raw at *
  rw [← List.take_append_drop (name.bytes ++ [0]).length raw, hstart, List.append_assoc]
  exact takeWhile_append_zero name.noNul _

theorem length_ifname_le : (name.bytes.take ifNamSiz ++ [0]).length ≤ Field.ifname.size := by
  rw [List.length_append]
  exact Nat.succ_le_succ (List.length_take_le ..)

theorem getField_setIfname {f : Field} (hf : f ≠ .ifname) :
    getField .ver1 (setIfname m i name) i f = getField .ver1 m i f :=
  getField_setField_of_ne length_ifname_le (.inr hf)

/-- The entry after a call has named it: a new entry gets a name, an old one has it. -/
def named (m : Memory) (isNew : Prop) [Decidable isNew] (i : Nat) (name : DeviceName) : Memory :=
  if isNew then setIfname (incNumEntries m) i name else m

section

variable {isNew : Prop} [Decidable isNew]

theorem getField_named {f : Field} (hf : f ≠ .ifname) :
    getField .ver1 (named m isNew i name) i f = getField .ver1 m i f := by
  unfold named
  split
  · rw [getField_setIfname hf, getField_incNumEntries]
  · rfl

theorem ite_named : (if isNew then (setIfname (incNumEntries m) i name, true) else (m, true))
    = (named m isNew i name, true) := by
  unfold named
  split <;> rfl

theorem SlotOnly.named (h : SlotOnly i 0 m m') (hlt : numEntriesWord m + 1 < 2 ^ 32) :
    SlotOnly i (if isNew then 1 else 0) m (named m' isNew i name) := by
  unfold Shm.named
  by_cases hnew : isNew
  · rw [if_pos hnew, if_pos hnew]
    exact (h.inc hlt).setField length_ifname_le
  · rw [if_neg hnew, if_neg hnew]
    exact h

theorem nameAt_named (h : name.bytes.length ≤ ifNamSiz)
    (hold : ¬isNew → nameAt .ver1 m i = name.bytes) :
    nameAt .ver1 (named m isNew i name) i = name.bytes := by
  unfold named
  by_cases hnew : isNew
  · rw [if_pos hnew]
    exact nameAt_setIfname h
  · rw [if_neg hnew]
    exact hold hnew

end

/-! ### The calls that set something -/

/-- A call on a table of version 1 does what it does on the directory. -/
def Refines (m : Memory) (c : Call) (m' : Memory) (answer : Answer) : Prop :=
  SoundAt .ver1 m' ∧ (contentsAt .ver1 m).call true c = (contentsAt .ver1 m', answer)

theorem nameAt_searchEnt (h : SoundAt .ver1 m) (hold : ¬searchEnt m name = numEntries m) :
    nameAt .ver1 m (searchEnt m name) = name.bytes := by
  rcases searchEnt_cases h name with ⟨-, hname⟩ | ⟨hi, -⟩
  · exact hname
  · exact absurd hi hold

/-- The lengths of an entry are within the fields. -/
def LengthsFit (m : Memory) (i : Nat) : Prop :=
  Memory.ofBytes (getField .ver1 m i .chassisidLen) ≤ shmMsapLen ∧
    Memory.ofBytes (getField .ver1 m i .portidLen) ≤ shmMsapLen

theorem lengthsFit_searchEnt (h : SoundAt .ver1 m)
    (hroom : searchEnt m name < maxLldpadShmEntries) : LengthsFit m (searchEnt m name) := by
  rcases searchEnt_cases h name with ⟨hi, -⟩ | ⟨hi, -⟩
  · exact ⟨h.chassis _ hi, h.port _ hi⟩
  · rw [LengthsFit, getField_unused h hi hroom, getField_unused h hi hroom,
      Memory.ofBytes_replicate_zero, Memory.ofBytes_replicate_zero]
    exact ⟨Nat.zero_le _, Nat.zero_le _⟩

theorem LengthsFit.congr (h : LengthsFit m i)
    (hc : getField .ver1 m' i .chassisidLen = getField .ver1 m i .chassisidLen)
    (hp : getField .ver1 m' i .portidLen = getField .ver1 m i .portidLen) : LengthsFit m' i := by
  rw [LengthsFit, hc, hp]
  exact h

theorem word_succ_lt (h : SoundAt .ver1 m) : numEntriesWord m + 1 < 2 ^ 32 := by
  have hmax := maxLldpadShmEntries_eq
  have hcount := h.count
  rw [word_of_version h.version rfl]
  omega

theorem recordAt_congr (h : ∀ f, f ≠ .ifname → getField .ver1 m' i f = getField .ver1 m i f) :
    recordAt .ver1 m' i = recordAt .ver1 m i := by
  simp only [recordAt, h .chassisid (by decide), h .chassisidLen (by decide),
    h .portid (by decide), h .portidLen (by decide), h .st (by decide), h .dcbxMode (by decide)]

theorem recordAt_named {isNew : Prop} [Decidable isNew] :
    recordAt .ver1 (named m isNew i name) i = recordAt .ver1 m i :=
  recordAt_congr fun _ hf => getField_named hf

section

variable {info : Bytes} {type : Int} {value length : Field}

/-- What `set_msap` writes into an entry. -/
def withMsap (m : Memory) (i : Nat) (value length : Field) (info : Bytes) : Memory :=
  setField (setField (setField m i value (List.replicate shmMsapLen 0)) i value info) i length
    (Memory.toBytes 4 info.length)

theorem msapFields_cases (h : msapFields type = some (value, length)) :
    type = 1 ∧ value = .chassisid ∧ length = .chassisidLen ∨
      type = 2 ∧ value = .portid ∧ length = .portidLen := by
  unfold msapFields at h
  split at h
  · cases h
    exact .inl ⟨‹_›, rfl, rfl⟩
  · split at h
    · cases h
      exact .inr ⟨‹_›, rfl, rfl⟩
    · cases h

/-- Where a value and its length stand. -/
structure MsapPair (value length : Field) : Prop where
  size : value.size = shmMsapLen
  sizeLen : length.size = 4
  differ : value ≠ length
  value : value ≠ .ifname
  length : length ≠ .ifname

theorem msapPair (h : msapFields type = some (value, length)) : MsapPair value length := by
  rcases msapFields_cases h with ⟨-, rfl, rfl⟩ | ⟨-, rfl, rfl⟩
  · exact ⟨rfl, rfl, by decide, by decide, by decide⟩
  · exact ⟨rfl, rfl, by decide, by decide, by decide⟩

theorem MsapPair.zeros_le (hp : MsapPair value length) :
    (List.replicate shmMsapLen (0 : UInt8)).length ≤ value.size :=
  Nat.le_of_eq (by rw [List.length_replicate, hp.size])

theorem MsapPair.length_le (hp : MsapPair value length) (n : Nat) :
    (Memory.toBytes 4 n).length ≤ length.size :=
  Nat.le_of_eq (by rw [Memory.length_toBytes, hp.sizeLen])

theorem slotOnly_withMsap (hp : MsapPair value length) (hinfo : info.length ≤ shmMsapLen) :
    SlotOnly i 0 m (withMsap m i value length info) := by
  have hvalue : info.length ≤ value.size := Nat.le_trans hinfo (Nat.le_of_eq hp.size.symm)
  exact (((SlotOnly.refl i m).setField hp.zeros_le).setField hvalue).setField (hp.length_le _)

theorem withMsap_length (hp : MsapPair value length) (hinfo : info.length ≤ shmMsapLen) :
    Memory.ofBytes (getField .ver1 (withMsap m i value length info) i length) = info.length := by
  have hlength := hp.sizeLen
  have hsmall : info.length < 256 ^ 4 := Nat.lt_of_le_of_lt hinfo (by decide)
  rw [withMsap, getField_setField_self (by rw [Memory.length_toBytes, hlength]),
    Memory.ofBytes_toBytes hsmall]

theorem withMsap_value (hp : MsapPair value length) (hinfo : info.length ≤ shmMsapLen) :
    (getField .ver1 (withMsap m i value length info) i value).take info.length = info := by
  rw [withMsap, getField_setField_of_ne (hp.length_le _) (.inr hp.differ)]
  exact take_setField (Nat.le_trans hinfo (Nat.le_of_eq hp.size.symm))

theorem withMsap_of_ne (hp : MsapPair value length) (hinfo : info.length ≤ shmMsapLen) {f : Field}
    (hv : f ≠ value) (hl : f ≠ length) :
    getField .ver1 (withMsap m i value length info) i f = getField .ver1 m i f := by
  rw [withMsap, getField_setField_of_ne (hp.length_le _) (.inr hl),
    getField_setField_of_ne (Nat.le_trans hinfo (Nat.le_of_eq hp.size.symm)) (.inr hv),
    getField_setField_of_ne hp.zeros_le (.inr hv)]

theorem recordAt_withMsap (h : msapFields type = some (value, length))
    (hinfo : info.length ≤ shmMsapLen) :
    recordAt .ver1 (withMsap m i value length info) i = (recordAt .ver1 m i).setMsap info type := by
  have hp := msapPair h
  have hlen := withMsap_length (m := m) (i := i) hp hinfo
  have hval := withMsap_value (m := m) (i := i) hp hinfo
  have hother := fun f => withMsap_of_ne (m := m) (i := i) (f := f) hp hinfo
  generalize withMsap m i value length info = m' at *
  rcases msapFields_cases h with ⟨rfl, rfl, rfl⟩ | ⟨rfl, rfl, rfl⟩
  · simp only [recordAt, Record.setMsap, hlen, hval, hother .portid (by decide) (by decide),
      hother .portidLen (by decide) (by decide), hother .st (by decide) (by decide),
      hother .dcbxMode (by decide) (by decide), if_true]
  · simp only [recordAt, Record.setMsap, hlen, hval, hother .chassisid (by decide) (by decide),
      hother .chassisidLen (by decide) (by decide), hother .st (by decide) (by decide),
      hother .dcbxMode (by decide) (by decide)]
    rfl

end

theorem lengthsFit_withMsap {info : Bytes} {type : Int} {value length : Field}
    (h : LengthsFit m i) (hf : msapFields type = some (value, length))
    (hinfo : info.length ≤ shmMsapLen) : LengthsFit (withMsap m i value length info) i := by
  have hp := msapPair hf
  have hlen := withMsap_length (m := m) (i := i) hp hinfo
  have hother := @withMsap_of_ne m i _ _ _ hp hinfo
  rcases msapFields_cases hf with ⟨rfl, rfl, rfl⟩ | ⟨rfl, rfl, rfl⟩
  · rw [LengthsFit, hlen, hother (by decide) (by decide)]
    exact ⟨hinfo, h.2⟩
  · rw [LengthsFit, hlen, hother (by decide) (by decide)]
    exact ⟨h.1, hinfo⟩

variable {stack : Memory}

theorem update_refines (h : SoundAt .ver1 m) {f : Record → Record}
    (hroom : searchEnt m name < maxLldpadShmEntries) (hfits : name.bytes.length ≤ ifNamSiz)
    (hslot : SlotOnly (searchEnt m name) (if searchEnt m name = numEntries m then 1 else 0) m m')
    (hnamed : nameAt .ver1 m' (searchEnt m name) = name.bytes)
    (hlengths : LengthsFit m' (searchEnt m name))
    (hrecord : recordAt .ver1 m' (searchEnt m name) = f (recordAt .ver1 m (searchEnt m name)))
    {c : Call} (hcall : (contentsAt .ver1 m).call true c
      = match (contentsAt .ver1 m).update name f with
        | some d' => (d', .done true)
        | none => (contentsAt .ver1 m, .done false)) :
    Refines m c m' (.done true) := by
  obtain ⟨hsound, hupdate⟩ :=
    set_refines h hroom hfits rfl hslot hnamed hlengths.1 hlengths.2 hrecord
  refine ⟨hsound, ?_⟩
  rw [hcall, hupdate]

theorem set_msap_refines (h : SoundAt .ver1 (upgraded stack m))
    (hfits : name.bytes.length ≤ ifNamSiz) (type : Int) (info : Bytes) :
    Refines (upgraded stack m) (.setMsap name type info)
      (lldpadShmSetMsap stack m name type info).1
      (.done (lldpadShmSetMsap stack m name type info).2) := by
  unfold lldpadShmSetMsap
  generalize upgraded stack m = m at *
  rw [if_neg (Nat.not_lt.mpr h.count)]
  by_cases hroom : searchEnt m name < maxLldpadShmEntries
  · rw [if_pos hroom]
    cases hf : msapFields type with
    | none =>
      have htype : ¬(type = 1 ∨ type = 2) := by
        rintro (rfl | rfl) <;> exact absurd hf (by decide)
      refine ⟨h, ?_⟩
      rw [Directory.call, if_neg fun hc => htype hc.1]
    | some pair =>
      obtain ⟨value, length⟩ := pair
      dsimp only
      by_cases hinfo : info.length ≤ shmMsapLen
      · have hp := msapPair hf
        have htype : type = 1 ∨ type = 2 := (msapFields_cases hf).imp And.left And.left
        rw [if_pos hinfo, ← withMsap, ite_named]
        refine update_refines h hroom hfits ?_ ?_ ?_ ?_ (if_pos ⟨htype, hinfo⟩)
        · exact (slotOnly_withMsap hp hinfo).named (word_succ_lt h)
        · refine nameAt_named hfits fun hold => ?_
          rw [nameAt, withMsap_of_ne hp hinfo hp.value.symm hp.length.symm]
          exact nameAt_searchEnt h hold
        · have hfit := lengthsFit_withMsap (lengthsFit_searchEnt h hroom) hf hinfo
          exact hfit.congr (getField_named (by decide)) (getField_named (by decide))
        · rw [recordAt_named]
          exact recordAt_withMsap hf hinfo
      · rw [if_neg hinfo]
        refine ⟨h, ?_⟩
        rw [Directory.call, if_neg fun hc => hinfo hc.2]
  · rw [if_neg hroom]
    refine ⟨h, ?_⟩
    rw [Directory.call, update_full h _ hroom]
    split <;> rfl

theorem set_state_refines (h : SoundAt .ver1 (upgraded stack m))
    (hfits : name.bytes.length ≤ ifNamSiz) (state : DcbxState) :
    Refines (upgraded stack m) (.setState name state) (setDcbxState stack m name state).1
      (.done (setDcbxState stack m name state).2) := by
  unfold setDcbxState
  generalize upgraded stack m = m at *
  rw [if_neg (Nat.not_lt.mpr h.count)]
  by_cases hroom : searchEnt m name < maxLldpadShmEntries
  · rw [if_pos hroom, ← named]
    have hst : state.bytes.length = Field.st.size := state.length_eq
    have hle := Nat.le_of_eq hst
    have hother : ∀ f, f ≠ .st → f ≠ .ifname → getField .ver1
        (setField (named m (searchEnt m name = numEntries m) (searchEnt m name) name)
          (searchEnt m name) .st state.bytes) (searchEnt m name) f
        = getField .ver1 m (searchEnt m name) f := by
      intro f hf hname
      rw [getField_setField_of_ne hle (.inr hf), getField_named hname]
    refine update_refines h hroom hfits ?_ ?_ ?_ ?_ rfl
    · exact ((SlotOnly.refl _ m).named (word_succ_lt h)).setField hle
    · rw [nameAt, getField_setField_of_ne hle (.inr (by decide))]
      exact nameAt_named hfits (nameAt_searchEnt h)
    · exact (lengthsFit_searchEnt h hroom).congr (hother _ (by decide) (by decide))
        (hother _ (by decide) (by decide))
    · simp only [recordAt, hother .chassisid (by decide) (by decide),
        hother .chassisidLen (by decide) (by decide), hother .portid (by decide) (by decide),
        hother .portidLen (by decide) (by decide), hother .dcbxMode (by decide) (by decide),
        getField_setField_self hst]
  · rw [if_neg hroom]
    refine ⟨h, ?_⟩
    rw [Directory.call, update_full h _ hroom]

/-- What `set_dcbx` clears in an entry that it makes. -/
def cleared (m : Memory) (i : Nat) : Memory :=
  setField (setField (setField (setField (setField m i .chassisid (List.replicate shmMsapLen 0)) i
    .chassisidLen (Memory.toBytes 4 0)) i .portid (List.replicate shmMsapLen 0)) i
    .portidLen (Memory.toBytes 4 0)) i .st DcbxState.zero.bytes

theorem setField_same {f : Field} {xs : Bytes} (h : getField .ver1 m i f = xs) :
    setField m i f xs = m := by
  rw [setField, ← h]
  exact Memory.write_read_self ..

theorem cleared_eq (h : ∀ f, f ≠ .ifname → getField .ver1 m i f = List.replicate f.size 0) :
    cleared m i = m := by
  have hchassis : setField m i .chassisid (List.replicate shmMsapLen 0) = m :=
    setField_same (h _ (by decide))
  have hchassisLen : setField m i .chassisidLen (Memory.toBytes 4 0) = m :=
    setField_same (h _ (by decide))
  have hport : setField m i .portid (List.replicate shmMsapLen 0) = m :=
    setField_same (h _ (by decide))
  have hportLen : setField m i .portidLen (Memory.toBytes 4 0) = m :=
    setField_same (h _ (by decide))
  have hst : setField m i .st DcbxState.zero.bytes = m := setField_same (h _ (by decide))
  rw [cleared, hchassis, hchassisLen, hport, hportLen, hst]

theorem ofBytes_mode {dcbxMode : Int} (h : dcbxMode = 0 ∨ dcbxMode = 1 ∨ dcbxMode = 2) :
    Memory.ofBytes (Memory.toBytes 1 dcbxMode.toNat) = dcbxMode.toNat := by
  rcases h with rfl | rfl | rfl <;> decide

theorem recordAt_setMode {dcbxMode : Int} (h : dcbxMode = 0 ∨ dcbxMode = 1 ∨ dcbxMode = 2) :
    recordAt .ver1 (setField m i .dcbxMode (Memory.toBytes 1 dcbxMode.toNat)) i
      = { recordAt .ver1 m i with dcbxMode := dcbxMode.toNat } := by
  have hlen : (Memory.toBytes 1 dcbxMode.toNat).length = Field.dcbxMode.size :=
    Memory.length_toBytes ..
  have hother : ∀ f, f ≠ .dcbxMode → getField .ver1
      (setField m i .dcbxMode (Memory.toBytes 1 dcbxMode.toNat)) i f = getField .ver1 m i f :=
    fun f hf => getField_setField_of_ne (Nat.le_of_eq hlen) (.inr hf)
  simp only [recordAt, hother .chassisid (by decide), hother .chassisidLen (by decide),
    hother .portid (by decide), hother .portidLen (by decide), hother .st (by decide),
    getField_setField_self hlen, ofBytes_mode h]

/-- `lldpad_shm_set_dcbx` -/
theorem set_dcbx_refines (h : SoundAt .ver1 (upgraded stack m))
    (hfits : name.bytes.length ≤ ifNamSiz) (dcbxMode : Int) :
    Refines (upgraded stack m) (.setDcbx name dcbxMode)
      (lldpadShmSetDcbx stack m name dcbxMode).1
      (.done (lldpadShmSetDcbx stack m name dcbxMode).2) := by
  unfold lldpadShmSetDcbx
  generalize upgraded stack m = m at *
  dsimp only
  rw [if_neg (Nat.not_lt.mpr h.count)]
  by_cases hmode : dcbxMode = 0 ∨ dcbxMode = 1 ∨ dcbxMode = 2
  · rw [if_neg (by omega)]
    have hlen : (Memory.toBytes 1 dcbxMode.toNat).length = Field.dcbxMode.size :=
      Memory.length_toBytes ..
    -- whichever entry it is, it has its name and the mode is written into it
    have hwrite : searchEnt m name < maxLldpadShmEntries →
        Refines m (.setDcbx name dcbxMode)
          (setField (named m (searchEnt m name = numEntries m) (searchEnt m name) name)
            (searchEnt m name) .dcbxMode (Memory.toBytes 1 dcbxMode.toNat)) (.done true) := by
      intro hroom
      refine update_refines h hroom hfits ?_ ?_ ?_ ?_ (if_pos hmode)
      · exact ((SlotOnly.refl _ m).named (word_succ_lt h)).setField (Nat.le_of_eq hlen)
      · rw [nameAt, getField_setField_of_ne (Nat.le_of_eq hlen) (.inr (by decide))]
        exact nameAt_named hfits (nameAt_searchEnt h)
      · have hother : ∀ f, f ≠ .dcbxMode → f ≠ .ifname → getField .ver1
            (setField (named m (searchEnt m name = numEntries m) (searchEnt m name) name)
              (searchEnt m name) .dcbxMode (Memory.toBytes 1 dcbxMode.toNat)) (searchEnt m name) f
            = getField .ver1 m (searchEnt m name) f := by
          intro f hf hname
          rw [getField_setField_of_ne (Nat.le_of_eq hlen) (.inr hf), getField_named hname]
        exact (lengthsFit_searchEnt h hroom).congr (hother _ (by decide) (by decide))
          (hother _ (by decide) (by decide))
      · rw [recordAt_setMode hmode, recordAt_named]
    have hcount := h.count
    rcases searchEnt_cases h name with ⟨hi, -⟩ | ⟨hi, -⟩
    · rw [if_pos hi]
      have hthis := hwrite (Nat.lt_of_lt_of_le hi hcount)
      rw [named, if_neg (Nat.ne_of_lt hi)] at hthis
      exact hthis
    · rw [if_neg (Nat.not_lt.mpr (Nat.le_of_eq hi.symm))]
      by_cases hroom : searchEnt m name < maxLldpadShmEntries
      · rw [if_pos hroom, ← cleared, cleared_eq]
        · have hthis := hwrite hroom
          rw [named, if_pos hi] at hthis
          exact hthis
        · intro f hf
          rw [getField_setIfname hf, getField_incNumEntries,
            getField_unused h hi hroom]
      · rw [if_neg hroom]
        refine ⟨h, ?_⟩
        rw [Directory.call, update_full h _ hroom]
        exact if_pos hmode
  · rw [if_pos (by omega)]
    refine ⟨h, ?_⟩
    rw [Directory.call, if_neg hmode]

/-! ### The calls that ask for something -/

theorem copyInfo_eq (h : SoundAt .ver1 m) (hroom : searchEnt m name < maxLldpadShmEntries)
    {type : Int} {value length : Field} (hf : msapFields type = some (value, length)) :
    copyInfo m (searchEnt m name) value length
      = .ok (((recordAt .ver1 m (searchEnt m name)).msap type).filter fun info => info ≠ []) := by
  have hmax := maxLldpadShmEntries_eq
  have hfit := lengthsFit_searchEnt h hroom
  have hp := msapPair hf
  have hle := field_le value
  have hsize : Layout.ver1.entrySize = 108 := rfl
  generalize searchEnt m name = i at *
  have hlen : Memory.ofBytes (getField .ver1 m i length) ≤ shmMsapLen := by
    rcases msapFields_cases hf with ⟨-, -, rfl⟩ | ⟨-, -, rfl⟩
    · exact hfit.1
    · exact hfit.2
  have hvalue : (recordAt .ver1 m i).msap type
      = some ((getField .ver1 m i value).take (Memory.ofBytes (getField .ver1 m i length))) := by
    rcases msapFields_cases hf with ⟨rfl, rfl, rfl⟩ | ⟨rfl, rfl, rfl⟩ <;> rfl
  rw [hvalue]
  rw [copyInfo, if_pos hroom]
  generalize Memory.ofBytes (getField .ver1 m i length) = n at *
  have hread : (getField .ver1 m i value).take n = m.read (ent .ver1 i + value.offset) n :=
    Memory.take_read _ _ (by rw [hp.size]; exact hlen)
  have hinside : ent .ver1 i + value.offset + n ≤ sizeofShmTbl := by
    have hsize' := hp.size
    rw [sizeofShmTbl, hmax, ent_ver1, ent_ver1]
    omega
  rw [hread]
  by_cases hn : n = 0
  · rw [if_pos hn, hn]
    rfl
  · have hne : m.read (ent .ver1 i + value.offset) n ≠ [] := by
      rw [Ne, ← List.length_eq_zero_iff, Memory.length_read]
      exact hn
    rw [if_neg hn, if_pos hinside, Option.filter_some_pos (by simpa using hne)]

/-- A call looks at entries of the table only: `get_msap` is not asked for a device without a
record when the table is full. -/
def Call.Inside (d : Directory) : Call → Prop
  | .getMsap name _ => d.size < maxLldpadShmEntries ∨ (d.record name).isSome
  | .setMsap .. | .setDcbx .. | .getDcbx _ | .setState .. | .getState _ | .clearState => True

theorem get_msap_refines (h : SoundAt .ver1 (upgraded stack m)) (type : Int)
    (hin : (Call.getMsap name type).Inside (contentsAt .ver1 (upgraded stack m))) :
    ∃ info, lldpadShmGetMsap stack m name type = .ok (upgraded stack m, info) ∧
      Refines (upgraded stack m) (.getMsap name type) (upgraded stack m) (.msap info) := by
  unfold lldpadShmGetMsap
  generalize upgraded stack m = m at *
  have hcount := h.count
  have hmax := maxLldpadShmEntries_eq
  have hword := word_of_version h.version rfl
  have hi := searchEnt_cases h name
  have hroom : searchEnt m name < maxLldpadShmEntries := by
    rcases hi with ⟨hlt, -⟩ | ⟨hi, hall⟩
    · omega
    · rcases hin with hsize | hsome
      · exact hi ▸ hsize
      · rw [contentsAt_none hall] at hsome
        cases hsome
  rw [if_neg (Nat.not_lt.mpr hcount), if_neg (by omega)]
  cases hf : msapFields type with
  | none =>
    refine ⟨none, rfl, h, ?_⟩
    have hnone : ∀ r : Record, r.msap type = none := by
      intro r
      unfold msapFields at hf
      unfold Record.msap
      split at hf
      · cases hf
      · split at hf
        · cases hf
        · rw [if_neg ‹_›, if_neg ‹_›]
    simp only [Directory.call, hnone, Option.bind_fun_none, Option.filter_none]
  | some pair =>
    obtain ⟨value, length⟩ := pair
    dsimp only
    rw [copyInfo_eq h hroom hf]
    refine ⟨_, rfl, h, ?_⟩
    rcases hi with ⟨hlt, hname⟩ | ⟨hi, hall⟩
    · rw [Directory.call, contentsAt_record h hlt hname]
      rfl
    · -- the entry behind the last one is read, and there are no identities in it
      rw [Directory.call, contentsAt_none hall, recordAt_unused h hi hroom]
      rcases msapFields_cases hf with ⟨rfl, -⟩ | ⟨rfl, -⟩ <;> rfl

/-- `lldpad_shm_get_dcbx`, in a table of version 1. Only one entry has the name, so it does not
matter that the loop goes on behind it. -/
theorem get_dcbx_ver1 (h : SoundAt .ver1 m) :
    (contentsAt .ver1 m).call true (.getDcbx name)
      = (contentsAt .ver1 m, .dcbx (lldpadShmGetDcbx m name)) := by
  unfold lldpadShmGetDcbx
  rw [if_neg (by rw [h.version]; decide), if_neg (Nat.not_lt.mpr h.count), Directory.call]
  rcases searchEnt_cases h name with ⟨hi, hname⟩ | ⟨-, hall⟩
  · generalize searchEnt m name = i at *
    rw [contentsAt_record h hi hname]
    have hloop : ∀ k ≤ numEntries m, (List.range k).foldl
        (fun rval j =>
          if strEq m (ent .ver1 j) name.bytes then
            let mode := Memory.ofBytes (getField .ver1 m j .dcbxMode)
            if mode = 1 ∨ mode = 2 then mode else rval
          else rval) 0
        = if i < k then
            let mode := Memory.ofBytes (getField .ver1 m i .dcbxMode)
            if mode = 1 ∨ mode = 2 then mode else 0
          else 0 := by
      intro k
      induction k with
      | zero => exact fun _ => rfl
      | succ k ih =>
        intro hk
        rw [List.range_succ, List.foldl_append, ih (Nat.le_of_succ_le hk), List.foldl_cons,
          List.foldl_nil]
        by_cases hki : k = i
        · rw [hki, if_pos ((strEq_iff (h.ends i hi) name.noNul).mpr hname),
            if_neg (Nat.lt_irrefl i), if_pos (Nat.lt_succ_self i)]
        · have hother : ¬strEq m (ent .ver1 k) name.bytes = true := by
            intro heq
            have hk' : k < numEntries m := hk
            have hkname := (strEq_iff (h.ends k hk') name.noNul).mp heq
            exact hki (h.distinct k hk' i hi (hkname.trans hname.symm))
          rw [if_neg hother]
          exact if_congr (by omega) rfl rfl
    rw [hloop _ (Nat.le_refl _), if_pos hi]
    rfl
  · rw [contentsAt_none hall]
    have hloop : ∀ k ≤ numEntries m, (List.range k).foldl
        (fun rval j =>
          if strEq m (ent .ver1 j) name.bytes then
            let mode := Memory.ofBytes (getField .ver1 m j .dcbxMode)
            if mode = 1 ∨ mode = 2 then mode else rval
          else rval) 0 = 0 := by
      intro k
      induction k with
      | zero => exact fun _ => rfl
      | succ k ih =>
        intro hk
        have hother : ¬strEq m (ent .ver1 k) name.bytes = true := fun heq =>
          hall k hk ((strEq_iff (h.ends k hk) name.noNul).mp heq)
        rw [List.range_succ, List.foldl_append, ih (Nat.le_of_succ_le hk), List.foldl_cons,
          List.foldl_nil, if_neg hother]
    rw [hloop _ (Nat.le_refl _)]
    rfl

theorem get_dcbx_refines (h : Sound m) :
    (contents m).call true (.getDcbx name) = (contents m, .dcbx (lldpadShmGetDcbx m name)) := by
  by_cases hv : version m = 0
  · have hlayout : layoutOf m = .ver0 := if_pos hv
    rw [Sound, hlayout] at h
    rw [lldpadShmGetDcbx, if_pos hv, contents, hlayout, Directory.call]
    by_cases hex : ∃ i < numEntries m, nameAt .ver0 m i = name.bytes
    · obtain ⟨i, hi, hname⟩ := hex
      rw [contentsAt_record h hi hname]
      rfl
    · have hall : ∀ i < numEntries m, nameAt .ver0 m i ≠ name.bytes :=
        fun i hi hname => hex ⟨i, hi, hname⟩
      rw [contentsAt_none hall]
      rfl
  · have hlayout : layoutOf m = .ver1 := if_neg hv
    rw [Sound, hlayout] at h
    rw [contents, hlayout]
    exact get_dcbx_ver1 h

theorem recordAt_clearState : recordAt .ver1 (setField m i .st DcbxState.zero.bytes) i
    = { recordAt .ver1 m i with state := .zero } := by
  have hst : DcbxState.zero.bytes.length = Field.st.size := DcbxState.zero.length_eq
  have hother : ∀ f, f ≠ .st →
      getField .ver1 (setField m i .st DcbxState.zero.bytes) i f = getField .ver1 m i f :=
    fun f hf => getField_setField_of_ne (Nat.le_of_eq hst) (.inr hf)
  simp only [recordAt, hother .chassisid (by decide), hother .chassisidLen (by decide),
    hother .portid (by decide), hother .portidLen (by decide), hother .dcbxMode (by decide),
    getField_setField_self hst]

theorem clearState_entry (h : SoundAt .ver1 m) (hi : searchEnt m name < numEntries m)
    (hname : nameAt .ver1 m (searchEnt m name) = name.bytes) :
    SoundAt .ver1 (setField m (searchEnt m name) .st DcbxState.zero.bytes) ∧
      (contentsAt .ver1 m).update name (fun r => { r with state := .zero })
        = some (contentsAt .ver1 (setField m (searchEnt m name) .st DcbxState.zero.bytes)) := by
  have hcount := h.count
  have hle : DcbxState.zero.bytes.length ≤ Field.st.size :=
    Nat.le_of_eq DcbxState.zero.length_eq
  have hfits : name.bytes.length ≤ ifNamSiz := by
    rw [← hname]
    exact h.ends _ hi
  have hslot := (SlotOnly.refl (searchEnt m name) m).setField hle
  have hother : ∀ f, f ≠ .st →
      getField .ver1 (setField m (searchEnt m name) .st DcbxState.zero.bytes) (searchEnt m name) f
        = getField .ver1 m (searchEnt m name) f :=
    fun f hf => getField_setField_of_ne hle (.inr hf)
  have hfit := (lengthsFit_searchEnt h (Nat.lt_of_lt_of_le hi hcount)).congr (hother .chassisidLen (by decide))
    (hother .portidLen (by decide))
  have hnamed : nameAt .ver1 (setField m (searchEnt m name) .st DcbxState.zero.bytes)
      (searchEnt m name) = name.bytes := by
    rw [nameAt, hother _ (by decide), ← nameAt]
    exact hname
  have hc : 0 = if searchEnt m name = numEntries m then 1 else 0 := by
    rw [if_neg (Nat.ne_of_lt hi)]
  exact set_refines h (Nat.lt_of_lt_of_le hi hcount) hfits hc hslot hnamed hfit.1 hfit.2
    recordAt_clearState

theorem get_state_refines (h : SoundAt .ver1 (upgraded stack m)) :
    Refines (upgraded stack m) (.getState name) (getDcbxState stack m name).1
      (.state (getDcbxState stack m name).2) := by
  unfold getDcbxState
  rw [if_neg (Nat.not_lt.mpr h.count)]
  rcases searchEnt_cases h name with ⟨hi, hname⟩ | ⟨hi, hall⟩
  · obtain ⟨hsound, hupdate⟩ := clearState_entry h hi hname
    rw [if_pos hi]
    refine ⟨hsound, ?_⟩
    rw [Directory.update, contentsAt_record h hi hname] at hupdate
    rw [Directory.call, contentsAt_record h hi hname, ← Option.some.inj hupdate]
    rfl
  · rw [if_neg (Nat.not_lt.mpr (Nat.le_of_eq hi.symm))]
    refine ⟨h, ?_⟩
    rw [Directory.call, contentsAt_none hall]

/-! ### The call that clears every state -/

theorem first_eq_zero {v : Layout} : m (ent v i) = 0 ↔ nameAt v m i = [] := by
  have hfield : getField v m i .ifname = m (ent v i) :: m.read (ent v i + 1) 16 :=
    Memory.read_succ m (ent v i) 16
  rw [nameAt, hfield, List.takeWhile_cons]
  split <;> simp_all

/-- What `clear_dcbx_state` has done to the entries before `k`. -/
structure ClearedTo (m : Memory) (k : Nat) (m' : Memory) : Prop where
  word : numEntriesWord m' = numEntriesWord m
  fields : ∀ j f, getField .ver1 m' j f
    = if j < k ∧ f = .st ∧ nameAt .ver1 m j ≠ [] then List.replicate f.size 0
      else getField .ver1 m j f
  behind : ∀ a, ent .ver1 k ≤ a → m' a = m a

theorem ClearedTo.nameAt_eq {k : Nat} (h : ClearedTo m k m') (j : Nat) :
    nameAt .ver1 m' j = nameAt .ver1 m j := by
  rw [nameAt, h.fields, if_neg fun hc => absurd hc.2.1 (by decide), nameAt]

theorem ClearedTo.step {k : Nat} (h : ClearedTo m k m') :
    ClearedTo m (k + 1)
      (if m' (ent .ver1 k) ≠ 0 then setField m' k .st DcbxState.zero.bytes else m') := by
  have hst : DcbxState.zero.bytes.length = Field.st.size := DcbxState.zero.length_eq
  have hle := Nat.le_of_eq hst
  have hsize : Layout.ver1.entrySize = 108 := rfl
  have hnamed : m' (ent .ver1 k) ≠ 0 ↔ nameAt .ver1 m k ≠ [] := by
    rw [← h.nameAt_eq k]
    exact not_congr first_eq_zero
  by_cases hn : nameAt .ver1 m k ≠ []
  · rw [if_pos (hnamed.mpr hn)]
    refine ⟨numEntriesWord_setField.trans h.word, fun j f => ?_, fun a ha => ?_⟩
    · by_cases hjk : j = k ∧ f = .st
      · obtain ⟨rfl, rfl⟩ := hjk
        rw [getField_setField_self hst, if_pos ⟨Nat.lt_succ_self j, rfl, hn⟩]
        rfl
      · rw [getField_setField_of_ne hle (by tauto), h.fields]
        refine if_congr ⟨fun hc => ⟨by omega, hc.2⟩, fun hc => ⟨?_, hc.2⟩⟩ rfl rfl
        have hne : j ≠ k := fun heq => hjk ⟨heq, hc.2.1⟩
        omega
    · have hf := field_le .st
      rw [ent_ver1] at ha
      rw [setField_of_outside hle (.inr (by rw [ent_ver1]; omega))]
      exact h.behind a (by rw [ent_ver1]; omega)
  · rw [if_neg (fun hc => hn (hnamed.mp hc))]
    refine ⟨h.word, fun j f => ?_, fun a ha => ?_⟩
    · rw [h.fields]
      refine if_congr ⟨fun hc => ⟨by omega, hc.2⟩, fun hc => ⟨?_, hc.2⟩⟩ rfl rfl
      have hne : j ≠ k := fun heq => hn (heq ▸ hc.2.2)
      omega
    · rw [ent_ver1] at ha
      exact h.behind a (by rw [ent_ver1]; omega)

theorem clearedTo_foldl (k : Nat) : ClearedTo m k ((List.range k).foldl
    (fun m i => if m (ent .ver1 i) ≠ 0 then setField m i .st DcbxState.zero.bytes else m) m) := by
  induction k with
  | zero =>
    refine ⟨rfl, fun j f => ?_, fun _ _ => rfl⟩
    rw [if_neg fun hc => absurd hc.1 (Nat.not_lt_zero j)]
    rfl
  | succ k ih =>
    rw [List.range_succ, List.foldl_append]
    exact ih.step

/-- `clear_dcbx_state` -/
theorem clear_state_refines (h : SoundAt .ver1 (upgraded stack m)) :
    Refines (upgraded stack m) .clearState (clearDcbxState stack m) (.done true) := by
  unfold clearDcbxState
  generalize upgraded stack m = m at *
  have hcount := h.count
  have hmax := maxLldpadShmEntries_eq
  rw [if_neg (Nat.not_lt.mpr hcount)]
  have hc := clearedTo_foldl (m := m) (numEntries m)
  generalize (List.range (numEntries m)).foldl _ m = m' at *
  have hword := word_of_version h.version rfl
  obtain ⟨hversion, hnum⟩ := version_of_word (hc.word.trans hword) (by omega)
  have hother : ∀ j f, f ≠ .st → getField .ver1 m' j f = getField .ver1 m j f := by
    intro j f hf
    rw [hc.fields, if_neg fun hc => hf hc.2.1]
  have hsound : SoundAt .ver1 m' := by
    refine ⟨hversion, by omega, ?_, ?_, ?_, ?_, ?_⟩
    · intro i hi
      rw [hc.nameAt_eq]
      exact h.ends i (hnum ▸ hi)
    · intro i hi j hj hij
      rw [hc.nameAt_eq, hc.nameAt_eq] at hij
      exact h.distinct i (hnum ▸ hi) j (hnum ▸ hj) hij
    · intro i hi
      rw [hother i _ (by decide)]
      exact h.chassis i (hnum ▸ hi)
    · intro i hi
      rw [hother i _ (by decide)]
      exact h.port i (hnum ▸ hi)
    · intro a ha ha'
      rw [hnum] at ha
      rw [hc.behind a ha]
      exact h.unused a ha ha'
  have hrecord : ∀ i < numEntries m, recordAt .ver1 m' i
      = if nameAt .ver1 m i ≠ [] then { recordAt .ver1 m i with state := .zero }
        else recordAt .ver1 m i := by
    intro i hi
    have hst := hc.fields i .st
    by_cases hn : nameAt .ver1 m i ≠ []
    · rw [if_pos ⟨hi, rfl, hn⟩] at hst
      rw [if_pos hn]
      simp only [recordAt, hother i .chassisid (by decide), hother i .chassisidLen (by decide),
        hother i .portid (by decide), hother i .portidLen (by decide),
        hother i .dcbxMode (by decide), hst]
      rfl
    · rw [if_neg fun hc => hn hc.2.2] at hst
      rw [if_neg hn]
      simp only [recordAt, hother i .chassisid (by decide), hother i .chassisidLen (by decide),
        hother i .portid (by decide), hother i .portidLen (by decide),
        hother i .dcbxMode (by decide), hst]
  refine ⟨hsound, Prod.ext (Eq.symm ?_) rfl⟩
  refine contentsAt_eq hsound hnum.symm ?_ ?_
  · intro i hi name hname
    rw [hnum] at hi
    rw [hc.nameAt_eq] at hname
    rw [hrecord i hi, hname]
    dsimp only [Directory.call]
    rw [contentsAt_record h hi hname]
    split <;> rfl
  · intro name hall
    have hnone : (contentsAt .ver1 m).record name = none := by
      refine contentsAt_none fun i hi => ?_
      rw [← hc.nameAt_eq]
      exact hall i (hnum.symm ▸ hi)
    dsimp only [Directory.call]
    rw [hnone]
    split <;> rfl

/-! ### Sequences of calls -/

/-- A call that sets something for a device names it within the field. -/
def Call.Fits : Call → Prop
  | .setMsap name _ _ | .setDcbx name _ | .setState name _ => name.bytes.length ≤ ifNamSiz
  | .getMsap .. | .getDcbx _ | .getState _ | .clearState => True

instance : DecidablePred Call.Fits := fun c => by
  cases c <;> unfold Call.Fits <;> infer_instance

/-- Every call of a sequence looks at entries of the table only. -/
def Directory.CallsInside : Directory → List Call → Prop
  | _, [] => True
  | d, c :: cs => c.Inside d ∧ (d.call true c).1.CallsInside cs

theorem call_refines (stack : Memory) (h : Sound m) {c : Call} (hc : c.Fits)
    (hin : c.Inside (contents m)) :
    ∃ m', call stack m c = .ok (m', ((contents m).call true c).2) ∧
      contents m' = ((contents m).call true c).1 ∧ Sound m' ∧
      (version m' = 1 ∨ version m' = version m) := by
  obtain ⟨hsound, hcontents⟩ := sound_upgraded stack h
  have hcall : ∀ {m' answer}, Refines (upgraded stack m) c m' answer →
      call stack m c = .ok (m', answer) →
      ∃ m', call stack m c = .ok (m', ((contents m).call true c).2) ∧
        contents m' = ((contents m).call true c).1 ∧ Sound m' ∧
        (version m' = 1 ∨ version m' = version m) := by
    intro m' answer hr hok
    rw [← hcontents, hr.2]
    exact ⟨m', hok, hr.1.sound.2, hr.1.sound.1, .inl hr.1.version⟩
  cases c with
  | setMsap name type info => exact hcall (set_msap_refines hsound hc type info) rfl
  | setDcbx name dcbxMode => exact hcall (set_dcbx_refines hsound hc dcbxMode) rfl
  | setState name state => exact hcall (set_state_refines hsound hc state) rfl
  | getMsap name type =>
    rw [← hcontents] at hin
    obtain ⟨info, hget, hr⟩ := @get_msap_refines m name stack hsound type hin
    exact hcall hr (by rw [call, hget]; rfl)
  | getState name => exact hcall (get_state_refines hsound) rfl
  | clearState => exact hcall (clear_state_refines hsound) rfl
  | getDcbx name =>
    rw [get_dcbx_refines h]
    exact ⟨m, rfl, rfl, h, .inr rfl⟩

theorem Sound.count (h : Sound m) : numEntries m ≤ maxLldpadShmEntries := SoundAt.count h

/-- Every sequence of calls answers as the directory does, and leaves a table with what the
directory then holds. The upgrade leaves the contents as they are. -/
theorem calls_directory (stack m : Memory) (cs : List Call) (h : Sound m)
    (hfits : ∀ c ∈ cs, c.Fits) (hin : (contents m).CallsInside cs) :
    contents (upgraded stack m) = contents m ∧
      ∃ m', calls stack m cs = .ok (m', ((contents m).calls true cs).2) ∧
        contents m' = ((contents m).calls true cs).1 ∧ Sound m' ∧
        numEntries m' ≤ maxLldpadShmEntries ∧ (version m' = 1 ∨ version m' = version m) := by
  have hupgraded := sound_upgraded stack h
  refine ⟨hupgraded.1.sound.2.trans hupgraded.2, ?_⟩
  clear hupgraded
  induction cs generalizing m with
  | nil => exact ⟨m, rfl, rfl, h, h.count, .inr rfl⟩
  | cons c cs ih =>
    obtain ⟨m₁, hcall, hcontents, hsound, hversion⟩ :=
      call_refines stack h (hfits c (.head cs)) hin.1
    obtain ⟨m₂, hcalls, hcontents', hsound', hcount, hversion'⟩ :=
      ih m₁ hsound (fun c' hc' => hfits c' (.tail c hc')) (hcontents ▸ hin.2)
    rw [hcontents] at hcalls hcontents'
    refine ⟨m₂, ?_, hcontents', hsound', hcount, ?_⟩
    · rw [calls, hcall]
      show (do
        let r ← calls stack m₁ cs
        pure (r.1, ((contents m).call true c).2 :: r.2)) = _
      rw [hcalls]
      rfl
    · -- once the table is of version 1 it stays that
      rcases hversion' with h1 | h1
      · exact .inl h1
      · rw [h1]
        exact hversion

/-- A table of version 0 with the chassis identity of one device. -/
def oldTable : Memory := fun k =>
  if k = 4 then 1 else if k = 8 then 97 else if k = 25 then 5 else if k = 60 then 1 else 0

/-- The device in it. -/
def oldDevice : DeviceName := ⟨[97], by decide⟩

theorem sound_oldTable : Sound oldTable := by
  have hlayout : layoutOf oldTable = .ver0 := by decide
  have hnum : numEntries oldTable = 1 := by decide
  rw [Sound, hlayout]
  refine ⟨by decide, by decide, by decide, by decide, by decide, by decide, ?_⟩
  intro k hk _
  rw [hnum, ent_ver0] at hk
  have h₁ : k ≠ 4 := by omega
  have h₂ : k ≠ 8 := by omega
  have h₃ : k ≠ 25 := by omega
  have h₄ : k ≠ 60 := by omega
  simp only [oldTable, if_neg h₁, if_neg h₂, if_neg h₃, if_neg h₄]

/-- A mode and an identity that are set and asked for. -/
theorem oldTable_directory :
    let cs := [Call.setDcbx oldDevice 2, .getDcbx oldDevice, .getMsap oldDevice 1]
    contents (upgraded (fun _ => 255) oldTable) = contents oldTable ∧
      ∃ m', calls (fun _ => 255) oldTable cs
          = .ok (m', ((contents oldTable).calls true cs).2) ∧
        contents m' = ((contents oldTable).calls true cs).1 ∧ Sound m' ∧
        numEntries m' ≤ maxLldpadShmEntries ∧ (version m' = 1 ∨ version m' = version oldTable) :=
  calls_directory (fun _ => 255) oldTable _ sound_oldTable (by decide)
    ⟨trivial, trivial, .inl (by decide), trivial⟩

/-- A state of a handshake. -/
def someState : DcbxState := ⟨List.replicate sizeofDcbxState 1, by decide⟩

/-- A name of seventeen characters. -/
def longDevice : DeviceName := ⟨List.replicate 17 97, by decide⟩

/-- A table of version 1 without devices, and with data behind the entries. -/
def usedTable : Memory := fun k =>
  if k = 6 then 1 else if k = 25 then 5 else if k = 60 then 1 else 0

/-- A directory gives the state again when it is asked for it again, it finds what was set under
a long name, and it has nothing for a device that is not in it. -/
theorem not_directory :
    Sound oldTable ∧
      (∃ cs, ((calls (fun _ => 255) oldTable cs).map Prod.snd).toOption
        ≠ some ((contents oldTable).calls false cs).2 ∧ ∀ c ∈ cs, c.Fits) ∧
      (∃ cs, ((calls (fun _ => 255) oldTable cs).map Prod.snd).toOption
        ≠ some ((contents oldTable).calls false cs).2 ∧
        ((contents oldTable).calls true cs).2 = ((contents oldTable).calls false cs).2) ∧
      (version usedTable = 1 ∧ numEntries usedTable = 0 ∧
        ((calls (fun _ => 255) usedTable [.getMsap oldDevice 1]).map Prod.snd).toOption
          = some [.msap (some [5])]) := by
  refine ⟨sound_oldTable,
    ⟨[.setState oldDevice someState, .getState oldDevice, .getState oldDevice], ?_, by decide⟩,
    ⟨[.setDcbx longDevice 2, .getDcbx longDevice], ?_, ?_⟩, by decide, by decide, ?_⟩
  · decide +kernel
  · decide +kernel
  · decide +kernel
  · decide +kernel

end Lldpad.Shm
