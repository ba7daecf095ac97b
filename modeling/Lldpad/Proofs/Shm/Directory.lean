import Lldpad.Proofs.Shm.Fields

/-!
# `Lldpad.Proofs.Shm.Directory`: the table is a directory

`Sound` says what a table looks like that the daemon left behind: names that end and differ,
lengths within their fields, and zeros behind the entries. `contents` is the map that such a
table stands for, in either version.

* `sound_upgraded`: the upgrade keeps the contents.
* `Writes.sound`: a call that writes one entry changes one record.
* `set_refines`: the same for the entry that the search finds, and for the one behind the last.
-/

namespace Lldpad.Shm

open Lldpad.Lib

/-! ### Tables that make sense -/

/-- The version number of a layout. -/
def Layout.number : Layout → Nat
  | .ver0 => 0
  | .ver1 => 1

/-- A table in a layout: names that end and differ, lengths within the fields, and nothing
behind the entries. -/
structure SoundAt (v : Layout) (m : Memory) : Prop where
  version : version m = v.number
  count : numEntries m ≤ maxLldpadShmEntries
  ends : ∀ i < numEntries m, (nameAt v m i).length ≤ ifNamSiz
  distinct : ∀ i < numEntries m, ∀ j < numEntries m, nameAt v m i = nameAt v m j → i = j
  chassis : ∀ i < numEntries m, Memory.ofBytes (getField v m i .chassisidLen) ≤ shmMsapLen
  port : ∀ i < numEntries m, Memory.ofBytes (getField v m i .portidLen) ≤ shmMsapLen
  unused : ∀ k, ent v (numEntries m) ≤ k → k < sizeofShmTbl → m k = 0

/-- The layout of a table. -/
def layoutOf (m : Memory) : Layout := if version m = 0 then .ver0 else .ver1

/-- A table of version 0 or 1 that the daemon may find. -/
def Sound (m : Memory) : Prop := SoundAt (layoutOf m) m

/-- The record in an entry. -/
def recordAt (v : Layout) (m : Memory) (i : Nat) : Record where
  chassis := (getField v m i .chassisid).take (Memory.ofBytes (getField v m i .chassisidLen))
  port := (getField v m i .portid).take (Memory.ofBytes (getField v m i .portidLen))
  dcbxMode :=
    match v with
    | .ver0 => 0
    | .ver1 => Memory.ofBytes (getField v m i .dcbxMode)
  state := ⟨getField v m i .st, length_getField v⟩

/-- The directory in a table of a layout. -/
def contentsAt (v : Layout) (m : Memory) : Directory where
  record name :=
    ((List.range (numEntries m)).find? fun i => nameAt v m i = name.bytes).map (recordAt v m)
  size := numEntries m

/-- The directory in a table. -/
def contents (m : Memory) : Directory := contentsAt (layoutOf m) m

section

variable {v : Layout} {m : Memory}

theorem contentsAt_record (h : SoundAt v m) {i : Nat} (hi : i < numEntries m) {name : DeviceName}
    (hname : nameAt v m i = name.bytes) : (contentsAt v m).record name = some (recordAt v m i) := by
  cases hfind : (List.range (numEntries m)).find? fun i => nameAt v m i = name.bytes with
  | none =>
    have hnone := List.find?_eq_none.mp hfind i (List.mem_range.mpr hi)
    simp [hname] at hnone
  | some j =>
    have hj := List.mem_range.mp (List.mem_of_find?_eq_some hfind)
    have hsame : nameAt v m j = name.bytes := by simpa using List.find?_some hfind
    rw [h.distinct i hi j hj (hname.trans hsame.symm)]
    exact congrArg (Option.map _) hfind

theorem contentsAt_none {name : DeviceName} (h : ∀ i < numEntries m, nameAt v m i ≠ name.bytes) :
    (contentsAt v m).record name = none := by
  have hfind : ((List.range (numEntries m)).find? fun i => nameAt v m i = name.bytes) = none := by
    refine List.find?_eq_none.mpr fun i hi => ?_
    simpa using h i (List.mem_range.mp hi)
  exact congrArg (Option.map _) hfind

theorem contentsAt_eq (h : SoundAt v m) {d : Directory} (hsize : d.size = numEntries m)
    (hsome : ∀ i < numEntries m, ∀ name : DeviceName, nameAt v m i = name.bytes →
      d.record name = some (recordAt v m i))
    (hnone : ∀ name : DeviceName, (∀ i < numEntries m, nameAt v m i ≠ name.bytes) →
      d.record name = none) : contentsAt v m = d := by
  have hrecord : (contentsAt v m).record = d.record := by
    funext name
    by_cases hex : ∃ i < numEntries m, nameAt v m i = name.bytes
    · obtain ⟨i, hi, hname⟩ := hex
      rw [contentsAt_record h hi hname, hsome i hi name hname]
    · have hall : ∀ i < numEntries m, nameAt v m i ≠ name.bytes :=
        fun i hi hname => hex ⟨i, hi, hname⟩
      rw [contentsAt_none hall, hnone name hall]
  cases d
  exact congr (congrArg Directory.mk hrecord) hsize.symm

theorem searchEnt_cases (h : SoundAt .ver1 m) (name : DeviceName) :
    (searchEnt m name < numEntries m ∧ nameAt .ver1 m (searchEnt m name) = name.bytes) ∨
      (searchEnt m name = numEntries m ∧ ∀ i < numEntries m, nameAt .ver1 m i ≠ name.bytes) := by
  cases hfind : (List.range (numEntries m)).find? fun i => strEq m (ent .ver1 i) name.bytes with
  | none =>
    refine .inr ⟨by rw [searchEnt, hfind]; rfl, fun i hi hname => ?_⟩
    have hnone := List.find?_eq_none.mp hfind i (List.mem_range.mpr hi)
    exact hnone ((strEq_iff (h.ends i hi) name.noNul).mpr hname)
  | some i =>
    have hi := List.mem_range.mp (List.mem_of_find?_eq_some hfind)
    have hsearch : searchEnt m name = i := by rw [searchEnt, hfind]; rfl
    have heq := List.find?_some (p := fun i => strEq m (ent .ver1 i) name.bytes) hfind
    rw [hsearch]
    exact .inl ⟨hi, (strEq_iff (h.ends i hi) name.noNul).mp heq⟩

/-! ### The upgrade -/

/-- The upgrade keeps the contents. -/
theorem upgrade_sound (stack : Memory) (h : SoundAt .ver0 m) :
    SoundAt .ver1 (lldpadShmVer0ToVer1 stack m (numEntries m)) ∧
      contentsAt .ver1 (lldpadShmVer0ToVer1 stack m (numEntries m)) = contentsAt .ver0 m := by
  have hmax := maxLldpadShmEntries_eq
  have hcount := h.count
  obtain ⟨hword, hfields, hbehind⟩ := @upgrade_fields m stack _ h.count
  have hsame : ∀ i < numEntries m, ∀ f, f ≠ .dcbxMode →
      getField .ver1 (lldpadShmVer0ToVer1 stack m (numEntries m)) i f = getField .ver0 m i f := by
    intro i hi f hf
    rw [hfields i hi f, if_neg hf]
  generalize lldpadShmVer0ToVer1 stack m (numEntries m) = m' at *
  obtain ⟨hversion, hnum⟩ := version_of_word hword (by omega)
  have hname : ∀ i < numEntries m, nameAt .ver1 m' i = nameAt .ver0 m i := by
    intro i hi
    rw [nameAt, hsame i hi _ (by decide), nameAt]
  have hrecord : ∀ i < numEntries m, recordAt .ver1 m' i = recordAt .ver0 m i := by
    intro i hi
    have hmode : Memory.ofBytes (getField .ver1 m' i .dcbxMode) = 0 := by
      rw [hfields i hi, if_pos rfl]
      rfl
    simp only [recordAt, hmode, hsame i hi .chassisid (by decide),
      hsame i hi .chassisidLen (by decide), hsame i hi .portid (by decide),
      hsame i hi .portidLen (by decide), hsame i hi .st (by decide)]
  have hsound : SoundAt .ver1 m' := by
    refine ⟨hversion, by omega, ?_, ?_, ?_, ?_, ?_⟩
    · intro i hi
      rw [hnum] at hi
      rw [hname i hi]
      exact h.ends i hi
    · intro i hi j hj hij
      rw [hnum] at hi hj
      rw [hname i hi, hname j hj] at hij
      exact h.distinct i hi j hj hij
    · intro i hi
      rw [hnum] at hi
      rw [hsame i hi _ (by decide)]
      exact h.chassis i hi
    · intro i hi
      rw [hnum] at hi
      rw [hsame i hi _ (by decide)]
      exact h.port i hi
    · intro k hk hk'
      rw [hnum, ent_ver1] at hk
      rw [hbehind k hk]
      refine h.unused k ?_ hk'
      rw [ent_ver0]
      omega
  refine ⟨hsound, contentsAt_eq hsound hnum.symm ?_ ?_⟩
  · intro i hi name hin
    rw [hnum] at hi
    rw [hname i hi] at hin
    rw [hrecord i hi]
    exact contentsAt_record h hi hin
  · intro name hall
    refine contentsAt_none fun i hi => ?_
    rw [← hname i hi]
    exact hall i (by rw [hnum]; exact hi)

theorem sound_upgraded (stack : Memory) (h : Sound m) :
    SoundAt .ver1 (upgraded stack m) ∧ contentsAt .ver1 (upgraded stack m) = contents m := by
  unfold Sound contents layoutOf at *
  unfold upgraded
  by_cases hv : version m = 0
  · rw [if_pos hv] at h ⊢
    rw [if_pos hv]
    exact upgrade_sound stack h
  · rw [if_neg hv] at h ⊢
    rw [if_neg hv]
    exact ⟨h, rfl⟩

theorem SoundAt.sound (h : SoundAt .ver1 m) : Sound m ∧ contents m = contentsAt .ver1 m := by
  have hlayout : layoutOf m = .ver1 := by
    rw [layoutOf, h.version]
    rfl
  rw [Sound, contents, hlayout]
  exact ⟨h, rfl⟩

end

/-! ### Writing an entry -/

/-- A call that writes entry `i` for a device and leaves `n` entries. -/
structure Writes (m m' : Memory) (name : DeviceName) (i n : Nat) : Prop where
  word : numEntriesWord m' = 65536 + n
  entry : i < n
  grows : n = numEntries m ∨ n = numEntries m + 1 ∧ i = numEntries m
  room : n ≤ maxLldpadShmEntries
  fits : name.bytes.length ≤ ifNamSiz
  own : i < numEntries m → nameAt .ver1 m i = name.bytes
  named : nameAt .ver1 m' i = name.bytes
  fresh : ∀ j < numEntries m, j ≠ i → nameAt .ver1 m j ≠ name.bytes
  chassis : Memory.ofBytes (getField .ver1 m' i .chassisidLen) ≤ shmMsapLen
  port : Memory.ofBytes (getField .ver1 m' i .portidLen) ≤ shmMsapLen
  others : ∀ j f, j ≠ i → getField .ver1 m' j f = getField .ver1 m j f
  behind : ∀ k, ent .ver1 n ≤ k → m' k = m k

/-- A call that writes one entry changes one record. -/
theorem Writes.sound {m m' : Memory} {name : DeviceName} {i n : Nat} (hm : SoundAt .ver1 m)
    (h : Writes m m' name i n) :
    SoundAt .ver1 m' ∧ contentsAt .ver1 m' =
      { record := Function.update (contentsAt .ver1 m).record name (some (recordAt .ver1 m' i))
        size := n } := by
  have hmax := maxLldpadShmEntries_eq
  have hroom := h.room
  obtain ⟨hversion, hnum⟩ := version_of_word h.word (by omega)
  have hold : ∀ j, j < n → j ≠ i → j < numEntries m := by
    intro j hj hne
    rcases h.grows with hn | ⟨hn, hi⟩ <;> omega
  have hnames : ∀ j, j ≠ i → nameAt .ver1 m' j = nameAt .ver1 m j := by
    intro j hne
    rw [nameAt, h.others j _ hne, nameAt]
  have hrecords : ∀ j, j ≠ i → recordAt .ver1 m' j = recordAt .ver1 m j := by
    intro j hne
    simp only [recordAt, h.others j _ hne]
  have hsound : SoundAt .ver1 m' := by
    refine ⟨hversion, by omega, ?_, ?_, ?_, ?_, ?_⟩
    · intro j hj
      rw [hnum] at hj
      by_cases hji : j = i
      · rw [hji, h.named]
        exact h.fits
      · rw [hnames j hji]
        exact hm.ends j (hold j hj hji)
    · intro j hj k hk hjk
      rw [hnum] at hj hk
      by_cases hji : j = i <;> by_cases hki : k = i
      · rw [hji, hki]
      · rw [hji, h.named, hnames k hki] at hjk
        exact absurd hjk.symm (h.fresh k (hold k hk hki) hki)
      · rw [hki, h.named, hnames j hji] at hjk
        exact absurd hjk (h.fresh j (hold j hj hji) hji)
      · rw [hnames j hji, hnames k hki] at hjk
        exact hm.distinct j (hold j hj hji) k (hold k hk hki) hjk
    · intro j hj
      rw [hnum] at hj
      by_cases hji : j = i
      · rw [hji]
        exact h.chassis
      · rw [h.others j _ hji]
        exact hm.chassis j (hold j hj hji)
    · intro j hj
      rw [hnum] at hj
      by_cases hji : j = i
      · rw [hji]
        exact h.port
      · rw [h.others j _ hji]
        exact hm.port j (hold j hj hji)
    · intro k hk hk'
      rw [hnum] at hk
      rw [h.behind k hk]
      refine hm.unused k (Nat.le_trans ?_ hk) hk'
      rw [ent_ver1, ent_ver1]
      rcases h.grows with hn | ⟨hn, -⟩ <;> omega
  refine ⟨hsound, contentsAt_eq hsound hnum.symm ?_ ?_⟩
  · intro j hj name' hname'
    rw [hnum] at hj
    dsimp only
    by_cases hji : j = i
    · rw [hji] at hname' ⊢
      have hsame : name' = name := by
        rw [h.named] at hname'
        exact DeviceName.ext hname'.symm
      rw [hsame, Function.update_self]
    · rw [hnames j hji] at hname'
      have hj' := hold j hj hji
      have hne : name' ≠ name := by
        rintro rfl
        exact h.fresh j hj' hji hname'
      rw [Function.update_of_ne hne, hrecords j hji]
      exact contentsAt_record hm hj' hname'
  · intro name' hall
    have hne : name' ≠ name := by
      rintro rfl
      exact hall i (by rw [hnum]; exact h.entry) h.named
    dsimp only
    rw [Function.update_of_ne hne]
    refine contentsAt_none fun j hj => ?_
    by_cases hji : j = i
    · -- the entry was the device's before, if it was in use
      intro hname'
      rw [hji] at hj hname'
      exact hne (DeviceName.ext (hname'.symm.trans (h.own hj)))
    · rw [← hnames j hji]
      exact hall j (by rw [hnum]; rcases h.grows with hn | ⟨hn, -⟩ <;> omega)

/-- Writes to the fields of entry `i`, with `c` more entries counted. -/
structure SlotOnly (i c : Nat) (m m' : Memory) : Prop where
  word : numEntriesWord m' = numEntriesWord m + c
  others : ∀ j f, j ≠ i → getField .ver1 m' j f = getField .ver1 m j f
  behind : ∀ k, ent .ver1 (i + 1) ≤ k → m' k = m k

namespace SlotOnly

variable {i c : Nat} {m m' : Memory} {f : Field} {xs : Bytes}

theorem refl (i : Nat) (m : Memory) : SlotOnly i 0 m m := ⟨rfl, fun _ _ _ => rfl, fun _ _ => rfl⟩

theorem setField (h : SlotOnly i c m m') (hlen : xs.length ≤ f.size) :
    SlotOnly i c m (setField m' i f xs) where
  word := numEntriesWord_setField.trans h.word
  others j g hj := (getField_setField_of_ne hlen (.inl hj)).trans (h.others j g hj)
  behind k hk := by
    have hle := field_le f
    have hsize : Layout.ver1.entrySize = 108 := rfl
    rw [setField_of_outside hlen (.inr (by rw [ent_ver1] at hk ⊢; omega))]
    exact h.behind k hk

theorem inc (h : SlotOnly i c m m') (hlt : numEntriesWord m + c + 1 < 2 ^ 32) :
    SlotOnly i (c + 1) m (incNumEntries m') where
  word := by
    rw [incNumEntries, h.word, Nat.mod_eq_of_lt hlt, numEntriesWord_setNumEntriesWord hlt]
    rfl
  others j g hj := (getField_setNumEntriesWord .ver1 _).trans (h.others j g hj)
  behind k hk := by
    rw [incNumEntries, setNumEntriesWord_of_outside (by rw [ent_ver1] at hk; omega)]
    exact h.behind k hk

end SlotOnly

theorem getField_incNumEntries {m : Memory} (i : Nat) (f : Field) :
    getField .ver1 (incNumEntries m) i f = getField .ver1 m i f :=
  getField_setNumEntriesWord .ver1 _

section

variable {m m' : Memory} {name : DeviceName}

theorem getField_unused (h : SoundAt .ver1 m) {i : Nat} (hi : i = numEntries m)
    (hroom : i < maxLldpadShmEntries) (f : Field) :
    getField .ver1 m i f = List.replicate f.size 0 := by
  have hmax := maxLldpadShmEntries_eq
  have hle := field_le f
  have hsize : Layout.ver1.entrySize = 108 := rfl
  have hlast : ent .ver1 i + f.offset + f.size ≤ sizeofShmTbl := by
    rw [sizeofShmTbl, hmax, ent_ver1, ent_ver1]
    omega
  have hzero : ∀ k, ent .ver1 i + f.offset ≤ k → k < ent .ver1 i + f.offset + f.size → m k = 0 := by
    intro k hk hk'
    have hfrom : ent .ver1 (numEntries m) ≤ k := hi ▸ Nat.le_trans (Nat.le_add_right ..) hk
    exact h.unused k hfrom (Nat.lt_of_lt_of_le hk' hlast)
  refine List.eq_replicate_iff.mpr ⟨length_getField _, fun b hb => ?_⟩
  obtain ⟨k, hk, rfl⟩ := List.mem_map.mp hb
  exact hzero _ (Nat.le_add_right ..) (Nat.add_lt_add_left (List.mem_range.mp hk) _)

theorem recordAt_unused (h : SoundAt .ver1 m) {i : Nat} (hi : i = numEntries m)
    (hroom : i < maxLldpadShmEntries) : recordAt .ver1 m i = {} := by
  simp only [recordAt, getField_unused h hi hroom, Memory.ofBytes_replicate_zero, List.take_zero]
  rfl

/-- A call that sets something for a device: the entry that the search finds is written, or the
one behind the last. -/
theorem set_refines (h : SoundAt .ver1 m) {f : Record → Record} {c : Nat}
    (hroom : searchEnt m name < maxLldpadShmEntries) (hfits : name.bytes.length ≤ ifNamSiz)
    (hc : c = if searchEnt m name = numEntries m then 1 else 0)
    (hslot : SlotOnly (searchEnt m name) c m m')
    (hnamed : nameAt .ver1 m' (searchEnt m name) = name.bytes)
    (hchassis : Memory.ofBytes (getField .ver1 m' (searchEnt m name) .chassisidLen) ≤ shmMsapLen)
    (hport : Memory.ofBytes (getField .ver1 m' (searchEnt m name) .portidLen) ≤ shmMsapLen)
    (hrecord : recordAt .ver1 m' (searchEnt m name) = f (recordAt .ver1 m (searchEnt m name))) :
    SoundAt .ver1 m' ∧ (contentsAt .ver1 m).update name f = some (contentsAt .ver1 m') := by
  have hword := word_of_version h.version rfl
  have hcount := h.count
  have hfound := searchEnt_cases h name
  generalize searchEnt m name = i at *
  -- an entry that is there is written, or the count goes up by one
  have hwhich : i < numEntries m ∧ c = 0 ∨ i = numEntries m ∧ c = 1 := by
    rcases hfound with ⟨hi, -⟩ | ⟨hi, -⟩
    · exact .inl ⟨hi, hc.trans (if_neg (Nat.ne_of_lt hi))⟩
    · exact .inr ⟨hi, hc.trans (if_pos hi)⟩
  have hw : Writes m m' name i (numEntries m + c) := by
    refine ⟨?_, by omega, by omega, by omega, hfits, ?_, hnamed, ?_, hchassis, hport,
      hslot.others, ?_⟩
    · rw [hslot.word, hword, Nat.add_assoc]
    · rcases hfound with ⟨-, hname⟩ | ⟨hi, -⟩
      · exact fun _ => hname
      · intro hlt
        omega
    · intro j hj hji hname
      rcases hfound with ⟨hi, hown⟩ | ⟨-, hall⟩
      · exact hji (h.distinct j hj i hi (hname.trans hown.symm))
      · exact hall j hj hname
    · intro k hk
      refine hslot.behind k (Nat.le_trans ?_ hk)
      rw [ent_ver1, ent_ver1]
      omega
  obtain ⟨hsound, hcontents⟩ := hw.sound h
  refine ⟨hsound, ?_⟩
  rw [hcontents, hrecord, Directory.update]
  rcases hfound with ⟨hi, hname⟩ | ⟨hi, hall⟩
  · have hsame : c = 0 := by omega
    rw [contentsAt_record h hi hname, hsame]
    rfl
  · have hmore : c = 1 := by omega
    have hspace : (contentsAt .ver1 m).size < maxLldpadShmEntries := by
      show numEntries m < maxLldpadShmEntries
      omega
    rw [contentsAt_none hall, recordAt_unused h hi hroom, hmore]
    exact if_pos hspace

theorem update_full (h : SoundAt .ver1 m) (f : Record → Record)
    (hfull : ¬searchEnt m name < maxLldpadShmEntries) :
    (contentsAt .ver1 m).update name f = none := by
  have hcount := h.count
  rcases searchEnt_cases h name with ⟨hi, -⟩ | ⟨hi, hall⟩
  · omega
  · rw [Directory.update, contentsAt_none hall]
    exact if_neg (by show ¬numEntries m < _; omega)

end

end Lldpad.Shm
