import Lldpad.Tlv.Pack

/-!
# `Lldpad.Proofs.Tlv.Pack`: packing and unpacking

The header keeps nine bits of the length. A TLV of up to 511 bytes of information goes through
`pack_tlv` and `unpack_tlv` unchanged (`unpackTlv_packTlv`), and `pack_tlv_after` puts it behind
what a block holds (`packTlvAfter_fits`). Nothing looks at a longer one: it is not refused, and
its header has a length of its own (`packsWell_iff`).
-/

namespace Lldpad.Tlv

open Lldpad.Lib
open Lldpad.Lldp (Bytes)

/-! ### The header -/

theorem toNat_and_511 (x : UInt16) : (x &&& 0x01ff).toNat = x.toNat % 512 := by
  rw [UInt16.toNat_and, show (0x01ff : UInt16).toNat = 2 ^ 9 - 1 from rfl,
    Nat.and_two_pow_sub_one_eq_mod]

theorem toNat_packHeader {type : UInt8} (htype : type.toNat < 128) (length : UInt16) :
    (packHeader type length).toNat = 512 * type.toNat + length.toNat % 512 := by
  have hshift : (type.toUInt16 <<< 9).toNat = 2 ^ 9 * type.toNat := by
    rw [UInt16.toNat_shiftLeft, UInt8.toNat_toUInt16, show (9 : UInt16).toNat % 16 = 9 from rfl,
      Nat.shiftLeft_eq]
    omega
  unfold packHeader
  rw [UInt16.toNat_or, hshift, toNat_and_511,
    ← Nat.two_pow_add_eq_or_of_lt (Nat.mod_lt _ (by decide))]

theorem packHeader_length {type : UInt8} (htype : type.toNat < 128) {length : UInt16}
    (hlen : length.toNat ≤ 511) : packHeader type length &&& 0x01ff = length := by
  refine UInt16.toNat_inj.mp ?_
  rw [toNat_and_511, toNat_packHeader htype]
  omega

theorem packHeader_type {type : UInt8} (htype : type.toNat < 128) (length : UInt16) :
    (packHeader type length >>> 9).toUInt8 = type := by
  refine UInt8.toNat_inj.mp ?_
  rw [UInt16.toNat_toUInt8, UInt16.toNat_shiftRight, toNat_packHeader htype,
    show (9 : UInt16).toNat % 16 = 9 from rfl, Nat.shiftRight_eq_div_pow]
  omega

theorem toNat_headerType (tl : UInt16) : (tl >>> 9).toUInt8.toNat = tl.toNat / 512 := by
  have htl := tl.toNat_lt
  rw [UInt16.toNat_toUInt8, UInt16.toNat_shiftRight, show (9 : UInt16).toNat % 16 = 9 from rfl,
    Nat.shiftRight_eq_div_pow]
  omega

theorem packHeader_word (tl : UInt16) : packHeader (tl >>> 9).toUInt8 (tl &&& 0x01ff) = tl := by
  have htl := tl.toNat_lt
  have htype := toNat_headerType tl
  refine UInt16.toNat_inj.mp ?_
  rw [toNat_packHeader (by omega), toNat_and_511, htype]
  omega

theorem ntohs_htons (x : UInt16) (rest : Bytes) : ntohs (htons x ++ rest) = x := by
  have hx := x.toNat_lt
  have hlow : x.toUInt8.toUInt16.toNat = x.toNat % 256 := by
    rw [UInt8.toNat_toUInt16, UInt16.toNat_toUInt8]
  have hhigh : ((x >>> 8).toUInt8.toUInt16 <<< 8).toNat = 2 ^ 8 * (x.toNat / 256) := by
    rw [UInt16.toNat_shiftLeft, UInt8.toNat_toUInt16, UInt16.toNat_toUInt8,
      UInt16.toNat_shiftRight, show (8 : UInt16).toNat % 16 = 8 from rfl, Nat.shiftRight_eq_div_pow,
      Nat.shiftLeft_eq]
    omega
  refine UInt16.toNat_inj.mp ?_
  show ((x >>> 8).toUInt8.toUInt16 <<< 8 ||| x.toUInt8.toUInt16).toNat = _
  rw [UInt16.toNat_or, hlow, hhigh, ← Nat.two_pow_add_eq_or_of_lt (Nat.mod_lt _ (by decide))]
  omega

theorem htons_ntohs (b c : UInt8) : htons (ntohs [b, c]) = [b, c] := by
  have hb := b.toNat_lt
  have hc := c.toNat_lt
  have hhigh : (b.toUInt16 <<< 8).toNat = 2 ^ 8 * b.toNat := by
    rw [UInt16.toNat_shiftLeft, UInt8.toNat_toUInt16, show (8 : UInt16).toNat % 16 = 8 from rfl,
      Nat.shiftLeft_eq]
    omega
  have hword : (ntohs [b, c]).toNat = 256 * b.toNat + c.toNat := by
    show (b.toUInt16 <<< 8 ||| c.toUInt16).toNat = _
    rw [UInt16.toNat_or, hhigh, UInt8.toNat_toUInt16, ← Nat.two_pow_add_eq_or_of_lt hc]
  have hfirst : (ntohs [b, c] >>> 8).toUInt8 = b := by
    refine UInt8.toNat_inj.mp ?_
    rw [UInt16.toNat_toUInt8, UInt16.toNat_shiftRight, hword,
      show (8 : UInt16).toNat % 16 = 8 from rfl, Nat.shiftRight_eq_div_pow]
    omega
  have hsecond : (ntohs [b, c]).toUInt8 = c := by
    refine UInt8.toNat_inj.mp ?_
    rw [UInt16.toNat_toUInt8, hword]
    omega
  rw [htons, hfirst, hsecond]

/-! ### Blocks -/

theorem copyTo_fits {buf : Bytes} {i : Nat} {bytes : Bytes} (h : i + bytes.length ≤ buf.length) :
    copyTo buf i bytes = .ok (buf.take i ++ bytes ++ buf.drop (i + bytes.length)) := if_pos h

/-- The bytes of a TLV on the wire -/
def wireBytes (t : UnpackedTlv) : Bytes := htons (packHeader t.type t.length) ++ t.info

theorem length_wireBytes (t : UnpackedTlv) : (wireBytes t).length = 2 + t.length.toNat := by
  rw [wireBytes, List.length_append, t.info_length]
  rfl

variable {t : UnpackedTlv}

theorem packTlv_eq (hok : tlvOk t = true) (hlen : t.length.toNat + 2 < 65536) :
    packTlv t = .ok (some { size := t.length + 2, tlv := wireBytes t }) := by
  have hsize : (t.length + 2).toNat = t.length.toNat + 2 := by
    rw [UInt16.toNat_add, show (2 : UInt16).toNat = 2 from rfl]
    omega
  have hzeros : (List.replicate (t.length + 2).toNat (0 : UInt8)).length = t.length.toNat + 2 := by
    rw [List.length_replicate, hsize]
  have hhead : (htons (packHeader t.type t.length)).length = 2 := rfl
  unfold packTlv
  rw [if_pos hok, copyTo_fits (by omega), bind_ok, List.take_zero, List.nil_append, hhead]
  by_cases hzero : t.length = 0
  · -- There is no information to copy.
    have hinfo : t.info = [] := List.eq_nil_of_length_eq_zero (by rw [t.info_length, hzero]; rfl)
    have hdrop : (List.replicate (t.length + 2).toNat (0 : UInt8)).drop (0 + 2) = [] :=
      List.drop_eq_nil_of_le (by rw [hzeros, hzero]; decide)
    unfold copyInfo
    rw [if_neg (not_not.mpr hzero), bind_ok, hdrop]
    simp [wireBytes, hinfo]
  · have hrest : ((List.replicate (t.length + 2).toNat (0 : UInt8)).drop (0 + 2)).length =
        t.length.toNat := by
      rw [List.length_drop, hzeros]
      omega
    have hinfo := t.info_length
    unfold copyInfo
    rw [if_pos hzero, copyTo_fits (by rw [List.length_append, hhead]; omega), bind_ok,
      List.take_append_of_le_length (Nat.le_of_eq hhead.symm),
        List.take_of_length_le (Nat.le_of_eq hhead),
      List.drop_eq_nil_of_le (by rw [List.length_append, hhead]; omega)]
    simp [wireBytes]

theorem unpackTlv_packTlv (htype : t.type.toNat < 128)
    (hlen : t.length.toNat ≤ 511) (size : UInt16) :
    unpackTlv { size := size, tlv := wireBytes t } = .ok t := by
  have htl : ntohs (wireBytes t) = packHeader t.type t.length := ntohs_htons _ _
  have hlength := packHeader_length htype hlen
  have htypeback := packHeader_type htype t.length
  have hinfo : (wireBytes t).drop 2 = t.info := rfl
  unfold unpackTlv
  simp only [htl, hlength, htypeback, hinfo]
  rw [dif_pos (Nat.le_of_eq (length_wireBytes t).symm)]
  congr
  exact List.take_of_length_le (Nat.le_of_eq t.info_length)

/-! ### Packing behind other TLVs -/

theorem toNat_size (hlen : t.length.toNat + 2 < 65536) :
    (t.length + 2).toNat = 2 + t.length.toNat := by
  rw [UInt16.toNat_add, show (2 : UInt16).toNat = 2 from rfl]
  omega

theorem packTlvAfter_fits {m : PackedTlv} {max : Int} (hok : tlvOk t = true)
    (hlen : t.length.toNat + 2 < 65536)
    (hmax : ((m.size.toNat + (2 + t.length.toNat) : Nat) : Int) ≤ max)
    (hroom : max ≤ m.tlv.length) :
    packTlvAfter (some t) m max = .ok (0,
      { size := m.size + (t.length + 2)
        tlv := m.tlv.take m.size.toNat ++ wireBytes t ++
          m.tlv.drop (m.size.toNat + (2 + t.length.toNat)) }) := by
  have hsize := toNat_size hlen
  have hwire := length_wireBytes t
  have hnot : ¬ ((t.length + 2).toNat : Int) + m.size.toNat > max := by omega
  unfold packTlvAfter
  simp only [hok, if_true, packTlv_eq hok hlen, bind_ok, hnot, if_false]
  rw [copyTo_fits (by omega), bind_ok, hwire]
  rfl

theorem packTlvAfter_refuses {m : PackedTlv} {max : Int} (hok : tlvOk t = true)
    (hlen : t.length.toNat + 2 < 65536)
    (hmax : max < ((m.size.toNat + (2 + t.length.toNat) : Nat) : Int)) :
    packTlvAfter (some t) m max = .ok (-1, m) := by
  have hsize := toNat_size hlen
  have hover : ((t.length + 2).toNat : Int) + m.size.toNat > max := by omega
  unfold packTlvAfter
  simp only [hok, if_true, packTlv_eq hok hlen, bind_ok, hover]
  rfl

/-- The length in the header of a block -/
def wireLength (tlv : Bytes) : Nat := (ntohs tlv &&& 0x01ff).toNat

theorem wireLength_wireBytes (htype : t.type.toNat < 128) :
    wireLength (wireBytes t) = t.length.toNat % 512 := by
  have hheader := toNat_packHeader htype t.length
  have htl : ntohs (wireBytes t) = packHeader t.type t.length := ntohs_htons _ _
  rw [wireLength, htl, toNat_and_511, hheader]
  omega

/-! ### What the TLV functions promise -/

/-- `p` was put behind the bytes of `m` that were in use, and nothing else of the block changed. -/
structure AppendedTo (m p after : PackedTlv) : Prop where
  size : after.size.toNat = m.size.toNat + (2 + wireLength p.tlv)
  kept : after.tlv.take m.size.toNat = m.tlv.take m.size.toNat
  bytes : (after.tlv.drop m.size.toNat).take (2 + wireLength p.tlv) = p.tlv
  rest : after.tlv.drop after.size.toNat = m.tlv.drop after.size.toNat

/-- Packing a TLV on its own, and behind the TLVs of a block with room for `max` bytes. A TLV with
more than 511 bytes of information is refused. -/
def PacksWell (t : UnpackedTlv) (m : PackedTlv) (max : Int) : Prop :=
  if t.length.toNat ≤ 511 then
    ∃ p, packTlv t = .ok (some p) ∧ unpackTlv p = .ok t ∧
      p.size.toNat = 2 + wireLength p.tlv ∧
      if ((m.size.toNat + p.size.toNat : Nat) : Int) ≤ max then
        ∃ after, packTlvAfter (some t) m max = .ok (0, after) ∧ AppendedTo m p after ∧
          (after.size.toNat : Int) ≤ max
      else packTlvAfter (some t) m max = .ok (-1, m)
  else packTlv t = .ok none ∧ packTlvAfter (some t) m max = .ok (-1, m)

theorem packTlv_ne_none (hok : tlvOk t = true) : packTlv t ≠ .ok none := by
  intro h
  unfold packTlv at h
  rw [if_pos hok] at h
  obtain ⟨block, _, h⟩ := bind_eq_ok.mp h
  obtain ⟨block', _, h⟩ := bind_eq_ok.mp h
  cases h

theorem appendedTo_of_fits {m : PackedTlv} (htype : t.type.toNat < 128)
    (hlen : t.length.toNat ≤ 511) (hsize : m.size.toNat + (2 + t.length.toNat) < 65536)
    (hroom : m.size.toNat + (2 + t.length.toNat) ≤ m.tlv.length) :
    AppendedTo m { size := t.length + 2, tlv := wireBytes t }
      { size := m.size + (t.length + 2)
        tlv := m.tlv.take m.size.toNat ++ wireBytes t ++
          m.tlv.drop (m.size.toNat + (2 + t.length.toNat)) } := by
  have hwire := length_wireBytes t
  have hnine : wireLength (wireBytes t) = t.length.toNat := by
    rw [wireLength_wireBytes htype]
    omega
  have hhead : (m.tlv.take m.size.toNat).length = m.size.toNat := by
    rw [List.length_take]
    omega
  have hafter : (m.size + (t.length + 2)).toNat = m.size.toNat + (2 + t.length.toNat) := by
    rw [UInt16.toNat_add, toNat_size (by omega)]
    omega
  have hfront : (m.tlv.take m.size.toNat ++ wireBytes t).length =
      m.size.toNat + (2 + t.length.toNat) := by
    rw [List.length_append, hhead, hwire]
  constructor
  · -- the new size
    rw [hafter, hnine]
  · -- the bytes in front
    rw [List.append_assoc, List.take_left' hhead]
  · -- the TLV itself
    rw [hnine, List.append_assoc, List.drop_left' hhead, List.take_left' hwire]
  · -- the bytes behind it
    simp only [hafter]
    rw [List.drop_left' hfront]

/-- `pack_tlv`, `unpack_tlv` and `pack_tlv_after` keep their promise for a TLV whose length fits
in the header, as long as the size of the block fits in a word. -/
theorem packsWell_iff {t : UnpackedTlv} {m : PackedTlv} {max : Int} (htype : t.type.toNat < 128)
    (hok : tlvOk t = true) (hroom : max ≤ m.tlv.length) :
    PacksWell t m max ↔ t.length.toNat ≤ 511 ∧
      (((m.size.toNat + (2 + t.length.toNat) : Nat) : Int) ≤ max →
        m.size.toNat + (2 + t.length.toNat) < 65536) := by
  unfold PacksWell
  by_cases hlen : t.length.toNat ≤ 511
  · have hpack := packTlv_eq hok (by omega)
    have hsize := toNat_size (t := t) (by omega)
    have hnine : wireLength (wireBytes t) = t.length.toNat := by
      rw [wireLength_wireBytes htype]
      omega
    rw [if_pos hlen]
    constructor
    · rintro ⟨p, hp, _, _, hafter⟩
      rw [hpack] at hp
      cases hp
      refine ⟨hlen, fun hmax => ?_⟩
      -- The new size is the sum, so the sum fits in a word.
      rw [hsize, if_pos hmax] at hafter
      obtain ⟨after, _, happ, _⟩ := hafter
      have hsum := happ.size
      have hword := after.size.toNat_lt
      rw [hnine] at hsum
      omega
    · rintro ⟨_, hword⟩
      refine ⟨_, hpack, unpackTlv_packTlv htype hlen _, ?_, ?_⟩
      · rw [hsize, hnine]
      · rw [hsize]
        by_cases hmax : ((m.size.toNat + (2 + t.length.toNat) : Nat) : Int) ≤ max
        · have happ := appendedTo_of_fits (m := m) htype hlen (hword hmax) (by omega)
          rw [if_pos hmax]
          refine ⟨_, packTlvAfter_fits hok (by omega) hmax hroom, happ, ?_⟩
          rw [happ.size, hnine]
          exact hmax
        · rw [if_neg hmax]
          exact packTlvAfter_refuses hok (by omega) (by omega)
  · rw [if_neg hlen]
    constructor
    · rintro ⟨hnone, _⟩
      exact absurd hnone (packTlv_ne_none hok)
    · rintro ⟨h, _⟩
      exact absurd h hlen

/-- A TTL behind 20 bytes of other TLVs -/
theorem packsWell_ttl :
    PacksWell { type := 3, length := 2, info := [0, 120], info_length := rfl }
      { size := 20, tlv := List.replicate 24 1 } 24 :=
  (packsWell_iff (by decide) (by decide) (by decide)).mpr (by decide)

/-- Information of 512 bytes is packed under a length of zero. -/
theorem not_packsWell_long :
    ¬ PacksWell
      { type := 127, length := 512, info := List.replicate 512 1
        info_length := List.length_replicate }
      { size := 0, tlv := List.replicate 600 0 } 600 := by
  rintro h
  unfold PacksWell at h
  rw [if_neg (by decide)] at h
  exact packTlv_ne_none (by decide) h.1

end Lldpad.Tlv
