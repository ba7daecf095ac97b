import Lldpad.Lldp.Mand
import Lldpad.Proofs.Tlv.Pack

/-!
# `Lldpad.Proofs.Lldp.MandBytes`: the bytes of the mandatory TLVs

`packMand_eq` computes what `mand_gettlv` packs: the TLVs that there are, one after the other.
`full_of_startsMandatory` reads it backwards: bytes that end with the End TLV and start with a
chassis ID, a port ID and a time to live come from data that have all three.
-/

namespace Lldpad.Mand

open Lldpad.Lib
open Lldpad.Lldp (Bytes)
open Lldpad.Tlv (UnpackedTlv packTlvAfter htons packHeader wireBytes)

/-! ### Packing -/

/-- A TLV that is packed without an error: it has some information, and not too much. -/
structure Packable (t : UnpackedTlv) : Prop where
  pos : 0 < t.length.toNat
  le : t.length.toNat ≤ sizeofInfo

theorem packable_identTlv (type : UInt8) (id : Ident) : Packable (identTlv type id) := by
  have hlength : (identTlv type id).length.toNat = id.info.length :=
    (identTlv type id).info_length.symm
  exact ⟨hlength ▸ id.pos, hlength ▸ id.le⟩

theorem packable_ttlTlv (ttl : UInt16) : Packable (ttlTlv ttl) where
  pos := Nat.succ_pos 1
  le := show 2 ≤ 256 by omega

theorem Packable.tlvOk {t : UnpackedTlv} (h : Packable t) : Tlv.tlvOk t = true := by
  have hne : t.length ≠ 0 := by
    intro hzero
    have hpos := h.pos
    rw [hzero] at hpos
    exact absurd hpos (by decide)
  unfold Tlv.tlvOk
  simp [hne]

/-- The bytes of the TLVs that there are, one after the other -/
def packedBytes (tlvs : List (Option UnpackedTlv)) : Bytes :=
  tlvs.flatMap fun tlv => (tlv.map wireBytes).getD []

theorem length_packedBytes (tlvs : List (Option UnpackedTlv)) :
    (packedBytes tlvs).length = (tlvs.map tlvSize).sum := by
  induction tlvs with
  | nil => rfl
  | cons tlv tlvs ih =>
    have htlv : ((tlv.map wireBytes).getD []).length = tlvSize tlv := by
      cases tlv with
      | none => rfl
      | some t => exact Tlv.length_wireBytes t
    unfold packedBytes at ih ⊢
    rw [List.flatMap_cons, List.length_append, ih, htlv, List.map_cons, List.sum_cons]

/-- TLVs that are packable go into a block that has the room that they need. -/
theorem packAll_eq (size : Nat) (hsize : size < 65536) (tlvs : List (Option UnpackedTlv)) :
    ∀ (acc room : Bytes), (∀ t, some t ∈ tlvs → Packable t) →
      acc.length + room.length = size → room.length = (packedBytes tlvs).length →
      packAll size tlvs { size := UInt16.ofNat acc.length, tlv := acc ++ room } =
        .ok (some { size := UInt16.ofNat size, tlv := acc ++ packedBytes tlvs }) := by
  induction tlvs with
  | nil =>
    intro acc room _ htotal hroom
    have hnil : room = [] := List.eq_nil_of_length_eq_zero hroom
    subst hnil
    rw [List.length_nil, Nat.add_zero] at htotal
    rw [packAll, htotal]
    rfl
  | cons tlv tlvs ih =>
    intro acc room hpack htotal hroom
    have hrest : ∀ t, some t ∈ tlvs → Packable t := fun t ht =>
      hpack t (List.mem_cons_of_mem _ ht)
    cases tlv with
    | none =>
      have hsame : packedBytes (none :: tlvs) = packedBytes tlvs := rfl
      rw [hsame] at hroom ⊢
      exact ih acc room hrest htotal hroom
    | some t =>
      have ht := hpack t (List.mem_cons_self ..)
      have hbytes : packedBytes (some t :: tlvs) = wireBytes t ++ packedBytes tlvs := rfl
      have hwire := Tlv.length_wireBytes t
      have hle := ht.le
      rw [hbytes, List.length_append, hwire] at hroom
      have hacc : (UInt16.ofNat acc.length).toNat = acc.length := by
        rw [UInt16.toNat_ofNat', Nat.mod_eq_of_lt (by omega)]
      have hstep : packTlvAfter (some t) { size := UInt16.ofNat acc.length, tlv := acc ++ room }
          size = .ok (0,
            { size := UInt16.ofNat (acc ++ wireBytes t).length
              tlv := (acc ++ wireBytes t) ++ room.drop (2 + t.length.toNat) }) := by
        rw [Tlv.packTlvAfter_fits ht.tlvOk (by unfold sizeofInfo at hle; omega)
          (by dsimp only; rw [hacc]; omega) (by rw [List.length_append]; omega)]
        have hsize' : UInt16.ofNat acc.length + (t.length + 2) =
            UInt16.ofNat (acc ++ wireBytes t).length := by
          refine UInt16.toNat_inj.mp ?_
          rw [UInt16.toNat_add, Tlv.toNat_size (by unfold sizeofInfo at hle; omega), hacc,
            UInt16.toNat_ofNat', List.length_append, hwire]
        rw [hsize', hacc, List.take_left, List.drop_append, List.drop_of_length_le (by omega),
          List.nil_append, Nat.add_sub_cancel_left]
      have hdrop : (room.drop (2 + t.length.toNat)).length = (packedBytes tlvs).length := by
        rw [List.length_drop]
        omega
      rw [packAll, hstep, bind_ok]
      dsimp only
      rw [if_neg (not_not.mpr rfl), hbytes, ← List.append_assoc]
      refine ih (acc ++ wireBytes t) _ hrest ?_ hdrop
      rw [List.length_append, hwire, hdrop]
      omega

theorem packable_mandTlvs (d : MandData) : ∀ t, some t ∈ mandTlvs d → Packable t := by
  intro t ht
  unfold mandTlvs at ht
  simp only [List.mem_cons, List.not_mem_nil, or_false, eq_comm (a := some t),
    Option.map_eq_some_iff] at ht
  rcases ht with ⟨id, _, rfl⟩ | ⟨id, _, rfl⟩ | ⟨ttl, _, rfl⟩
  · exact packable_identTlv _ id
  · exact packable_identTlv _ id
  · exact packable_ttlTlv ttl

theorem length_packedBytes_le (tlvs : List (Option UnpackedTlv))
    (h : ∀ t, some t ∈ tlvs → Packable t) :
    (packedBytes tlvs).length ≤ tlvs.length * (2 + sizeofInfo) := by
  rw [length_packedBytes]
  induction tlvs with
  | nil => exact Nat.zero_le _
  | cons tlv tlvs ih =>
    have hrest := ih fun t ht => h t (List.mem_cons_of_mem _ ht)
    have htlv : tlvSize tlv ≤ 2 + sizeofInfo := by
      cases tlv with
      | none => exact Nat.zero_le _
      | some t => exact Nat.add_le_add_left (h t (List.mem_cons_self ..)).le 2
    rw [List.map_cons, List.sum_cons, List.length_cons, Nat.succ_mul]
    omega

/-- The mandatory TLVs of an agent as bytes -/
def mandBytes (d : MandData) : Bytes := packedBytes (mandTlvs d)

theorem length_mandBytes_le (d : MandData) : (mandBytes d).length ≤ 774 := by
  have hle := length_packedBytes_le (mandTlvs d) (packable_mandTlvs d)
  have hthree : (mandTlvs d).length = 3 := rfl
  rw [hthree, show sizeofInfo = 256 from rfl] at hle
  exact hle

/-- TLVs that are packable are packed into a block of their size, all of it. -/
theorem packBlock_eq {tlvs : List (Option UnpackedTlv)} (hpack : ∀ t, some t ∈ tlvs → Packable t)
    (hle : (packedBytes tlvs).length < 65536) {size : Nat}
    (hsize : size = (tlvs.map tlvSize).sum) :
    (packAll size tlvs { size := 0, tlv := List.replicate size 0 } >>= fun ptlv =>
      pure (ptlv.map fun ptlv => ptlv.tlv.take ptlv.size.toNat)) =
        (.ok (some (packedBytes tlvs)) : Except Fault (Option Bytes)) := by
  have hlength : size = (packedBytes tlvs).length := by
    rw [hsize, length_packedBytes]
  subst hlength
  have hall := packAll_eq (packedBytes tlvs).length hle tlvs []
    (List.replicate (packedBytes tlvs).length 0) hpack
    (by rw [List.length_nil, List.length_replicate, Nat.zero_add]) (List.length_replicate ..)
  rw [List.nil_append] at hall
  show (packAll (packedBytes tlvs).length tlvs
    { size := UInt16.ofNat ([] : Bytes).length
      tlv := List.replicate (packedBytes tlvs).length 0 } >>= _) = _
  rw [hall, bind_ok]
  show Except.ok (some (List.take (UInt16.ofNat (packedBytes tlvs).length).toNat
    (packedBytes tlvs))) = _
  rw [UInt16.toNat_ofNat', Nat.mod_eq_of_lt (by omega), List.take_length]

theorem packMand_eq (d : MandData) :
    packMand d = .ok (if mandBytes d = [] then none else some (mandBytes d)) := by
  have hlength : (mandBytes d).length = ((mandTlvs d).map tlvSize).sum :=
    length_packedBytes (mandTlvs d)
  have hle := length_mandBytes_le d
  unfold packMand
  rw [← hlength]
  by_cases hnil : mandBytes d = []
  · rw [if_pos hnil, if_pos (by rw [hnil]; rfl)]
  · have hpos : 0 < (mandBytes d).length := List.length_pos_iff.mpr hnil
    rw [if_neg hnil, if_neg (by omega)]
    exact packBlock_eq (packable_mandTlvs d) (show (mandBytes d).length < 65536 by omega) hlength

/-! ### What a frame starts with -/

/-- An identifier with a subtype of the standard -/
structure ValidId (info : Bytes) : Prop where
  subtype : 1 ≤ info.getD 0 0 ∧ info.getD 0 0 ≤ 7
  length : 2 ≤ info.length
  le : info.length ≤ sizeofInfo

/-- A TLV on the wire -/
def tlvBytes (type : UInt8) (info : Bytes) : Bytes :=
  htons (packHeader type (UInt16.ofNat info.length)) ++ info

/-- What comes behind the header starts with the three mandatory TLVs. -/
def StartsMandatory (ttl : Bytes → Prop) (chassisIs : Bytes → Prop) (payload : Bytes) : Prop :=
  ∃ chassis portid time rest, payload = tlvBytes chassisIdTlv chassis ++
      (tlvBytes portIdTlv portid ++ (tlvBytes timeToLiveTlv time ++ rest)) ∧
    ValidId chassis ∧ ValidId portid ∧ time.length = 2 ∧ ttl time ∧ chassisIs chassis

theorem tlvBytes_inj {type : UInt8} (htype : type.toNat < 128) {info info' rest rest' : Bytes}
    (hlen : info.length ≤ 511) (hlen' : info'.length ≤ 511)
    (h : tlvBytes type info ++ rest = tlvBytes type info' ++ rest') :
    info = info' ∧ rest = rest' := by
  unfold tlvBytes at h
  rw [List.append_assoc, List.append_assoc] at h
  obtain ⟨hhead, htail⟩ := List.append_inj h rfl
  have hword : packHeader type (UInt16.ofNat info.length) =
      packHeader type (UInt16.ofNat info'.length) := by
    rw [← Tlv.ntohs_htons (packHeader type (UInt16.ofNat info.length)) [], hhead, Tlv.ntohs_htons]
  have hlength : info.length = info'.length := by
    have hnat := congrArg UInt16.toNat hword
    rw [Tlv.toNat_packHeader htype, Tlv.toNat_packHeader htype, UInt16.toNat_ofNat',
      UInt16.toNat_ofNat'] at hnat
    omega
  exact List.append_inj htail hlength

theorem tlvBytes_ne {type type' : UInt8} (htype : type.toNat < 128) (htype' : type'.toNat < 128)
    (hne : type ≠ type') {info info' rest rest' : Bytes} :
    tlvBytes type info ++ rest ≠ tlvBytes type' info' ++ rest' := by
  intro h
  unfold tlvBytes at h
  rw [List.append_assoc, List.append_assoc] at h
  obtain ⟨hhead, _⟩ := List.append_inj h rfl
  have hword : packHeader type (UInt16.ofNat info.length) =
      packHeader type' (UInt16.ofNat info'.length) := by
    rw [← Tlv.ntohs_htons (packHeader type (UInt16.ofNat info.length)) [], hhead, Tlv.ntohs_htons]
  have hnat := congrArg UInt16.toNat hword
  rw [Tlv.toNat_packHeader htype, Tlv.toNat_packHeader htype'] at hnat
  have heq : type.toNat = type'.toNat := by omega
  exact hne (UInt8.toNat_inj.mp heq)

/-- A TLV that may be missing -/
def optTlv (type : UInt8) (info : Option Bytes) : Bytes :=
  (info.map (tlvBytes type)).getD []

/-- The bytes start with a TLV of another type. -/
def StartsOther (type : UInt8) (bytes : Bytes) : Prop :=
  ∃ type' : UInt8, type'.toNat < 128 ∧ type' ≠ type ∧
    ∃ info rest, bytes = tlvBytes type' info ++ rest

theorem StartsOther.optTlv {type type' : UInt8} {tail : Bytes} (h : StartsOther type tail)
    (htype' : type'.toNat < 128) (hne : type' ≠ type) (info : Option Bytes) :
    StartsOther type (optTlv type' info ++ tail) := by
  cases info with
  | none => exact h
  | some info => exact ⟨type', htype', hne, info, tail, rfl⟩

theorem optTlv_inj {type : UInt8} (htype : type.toNat < 128) {info : Option Bytes}
    (hle : ∀ i ∈ info, i.length ≤ 511) {info' tail rest : Bytes} (hle' : info'.length ≤ 511)
    (hother : StartsOther type tail)
    (h : optTlv type info ++ tail = tlvBytes type info' ++ rest) :
    info = some info' ∧ tail = rest := by
  cases info with
  | none =>
    obtain ⟨type', htype', hne, i, t, rfl⟩ := hother
    exact absurd h (tlvBytes_ne htype' htype hne)
  | some i =>
    obtain ⟨rfl, rfl⟩ := tlvBytes_inj htype (hle i rfl) hle' h
    exact ⟨rfl, rfl⟩

theorem mandBytes_eq (d : MandData) :
    mandBytes d = optTlv chassisIdTlv (d.chassis.map (·.info)) ++
      (optTlv portIdTlv (d.portid.map (·.info)) ++ optTlv timeToLiveTlv (d.ttl.map htons)) := by
  have hident : ∀ type (id : Option Ident),
      ((id.map (identTlv type)).map wireBytes).getD [] = optTlv type (id.map (·.info)) := by
    intro type id
    cases id <;> rfl
  have httl : ((d.ttl.map ttlTlv).map wireBytes).getD [] =
      optTlv timeToLiveTlv (d.ttl.map htons) := by
    cases d.ttl <;> rfl
  unfold mandBytes packedBytes mandTlvs
  rw [List.flatMap_cons, List.flatMap_cons, List.flatMap_cons, List.flatMap_nil, List.append_nil,
    hident, hident, httl]

/-- All three are there. -/
structure MandData.Full (d : MandData) (chassis portid : Ident) (ttl : UInt16) : Prop where
  chassis : d.chassis = some chassis
  portid : d.portid = some portid
  ttl : d.ttl = some ttl

theorem startsMandatory_of_full {d : MandData} {chassis portid : Ident} {ttl : UInt16}
    (h : d.Full chassis portid ttl) {time chassisIs : Bytes → Prop}
    (hchassis : ValidId chassis.info) (hportid : ValidId portid.info) (htime : time (htons ttl))
    (his : chassisIs chassis.info) (rest : Bytes) :
    StartsMandatory time chassisIs (mandBytes d ++ rest) := by
  refine ⟨chassis.info, portid.info, htons ttl, rest, ?_, hchassis, hportid, rfl, htime, his⟩
  rw [mandBytes_eq, h.chassis, h.portid, h.ttl, List.append_assoc, List.append_assoc]
  rfl

/-- Without other modules, what is there is what the frame starts with: the End TLV is none of the
three. -/
theorem full_of_startsMandatory {d : MandData} {time chassisIs : Bytes → Prop} {pad : Bytes}
    (h : StartsMandatory time chassisIs (mandBytes d ++ ([0, 0] ++ pad))) :
    ∃ chassis portid ttl, d.Full chassis portid ttl ∧ ValidId chassis.info ∧
      ValidId portid.info ∧ time (htons ttl) ∧ chassisIs chassis.info := by
  obtain ⟨chassis, portid, t, rest, heq, hchassis, hportid, htlen, htime, his⟩ := h
  have hsize : sizeofInfo ≤ 511 := by decide
  have hmax : ∀ id : Option Ident, ∀ i ∈ id.map (·.info), i.length ≤ 511 := by
    intro id i hi
    obtain ⟨a, _, rfl⟩ := Option.map_eq_some_iff.mp hi
    exact Nat.le_trans a.le hsize
  -- what comes behind a TLV that is missing is of another type
  have hend : ∀ type : UInt8, (0 : UInt8) ≠ type → StartsOther type ([0, 0] ++ pad) :=
    fun type hne => ⟨0, by decide, hne, [], pad, rfl⟩
  have hbehindPort : StartsOther portIdTlv
      (optTlv timeToLiveTlv (d.ttl.map htons) ++ ([0, 0] ++ pad)) :=
    (hend portIdTlv (by decide)).optTlv (by decide) (by decide) _
  have hbehindChassis : StartsOther chassisIdTlv (optTlv portIdTlv (d.portid.map (·.info)) ++
      (optTlv timeToLiveTlv (d.ttl.map htons) ++ ([0, 0] ++ pad))) :=
    ((hend chassisIdTlv (by decide)).optTlv (by decide) (by decide) _).optTlv (by decide)
      (by decide) _
  rw [mandBytes_eq, List.append_assoc, List.append_assoc] at heq
  obtain ⟨hc, heq⟩ := optTlv_inj (by decide) (hmax _) (Nat.le_trans hchassis.le hsize)
    hbehindChassis heq
  obtain ⟨hp, heq⟩ := optTlv_inj (by decide) (hmax _) (Nat.le_trans hportid.le hsize)
    hbehindPort heq
  have httl : ∀ i ∈ d.ttl.map htons, i.length ≤ 511 := by
    intro i hi
    obtain ⟨ttl, _, rfl⟩ := Option.map_eq_some_iff.mp hi
    exact show 2 ≤ 511 by omega
  obtain ⟨ht, _⟩ := optTlv_inj (by decide) httl (by omega) (hend timeToLiveTlv (by decide)) heq
  obtain ⟨c, hc', rfl⟩ := Option.map_eq_some_iff.mp hc
  obtain ⟨p, hp', rfl⟩ := Option.map_eq_some_iff.mp hp
  obtain ⟨ttl, ht', rfl⟩ := Option.map_eq_some_iff.mp ht
  exact ⟨c, p, ttl, ⟨hc', hp', ht'⟩, hchassis, hportid, htime, his⟩

end Lldpad.Mand
