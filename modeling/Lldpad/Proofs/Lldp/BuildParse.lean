import Lldpad.Proofs.Lldp.Identity
import Lldpad.Qbg.VdpTlv

/-!
# `Lldpad.Proofs.Lldp.BuildParse`: a frame is parsed into the TLVs it was built from

`mibConstrInfoLLDPDU` puts the TLVs of the modules one behind the other, and the loop of
`rxProcessFrame` takes them apart again. They agree on where a TLV starts
(`Built.offsetOf_eq`), and everything else follows from that.

* `SuppliedTlv`: a TLV that `pack_tlv` makes, with its type and length in range.
* `Supplies`: the modules supply a list of TLVs, each any number of them at once.
* `mibConstr_built`: the frame, and that the length that is sent covers it.
* `parsed_built`: the receive loop finds those TLVs and the End TLV, and no error of its own.

The End TLV ends a frame, whatever its length. A list with a TLV of type 0 is not parsed to
its end (`earlyEnd_not_roundTrips`).
-/

namespace Lldpad.Lldp

open Lldpad.Lib

variable {μ : Type}

/-! ### The TLVs of a module -/

/-- What a received TLV says: its type and its information string. -/
def UnpackedTlv.content (tlv : UnpackedTlv) : Nat × Bytes := (tlv.type, tlv.info)

/-- A TLV that a module packs: the type has seven bits, and the information string has 1 to
511 bytes. -/
@[ext] structure SuppliedTlv where
  type : UInt8
  info : Bytes
  type_lt : type.toNat < 128
  info_pos : 0 < info.length
  info_le : info.length ≤ 511

namespace SuppliedTlv

/-- What the TLV says. -/
def content (t : SuppliedTlv) : Nat × Bytes := (t.type.toNat, t.info)

/-- The bytes of the TLV. -/
def packed (t : SuppliedTlv) : Bytes :=
  [UInt8.ofNat ((t.type.toNat * 512 + t.info.length) / 256),
    UInt8.ofNat ((t.type.toNat * 512 + t.info.length) % 256)] ++ t.info

@[simp] theorem length_packed (t : SuppliedTlv) : t.packed.length = t.info.length + 2 := by
  simp [packed]

end SuppliedTlv

/-- The bytes of a list of TLVs. -/
def packAll (tlvs : List SuppliedTlv) : Bytes := tlvs.flatMap SuppliedTlv.packed

@[simp] theorem packAll_nil : packAll [] = [] := rfl

@[simp] theorem packAll_cons (t : SuppliedTlv) (tlvs : List SuppliedTlv) :
    packAll (t :: tlvs) = t.packed ++ packAll tlvs := rfl

@[simp] theorem packAll_append (tlvs more : List SuppliedTlv) :
    packAll (tlvs ++ more) = packAll tlvs ++ packAll more := List.flatMap_append

/-- The TLVs of a frame: the three mandatory ones come first, and none of their types comes
again. -/
structure Lldpdu where
  chassis : SuppliedTlv
  port : SuppliedTlv
  ttl : SuppliedTlv
  rest : List SuppliedTlv
  chassis_type : chassis.type = 1
  port_type : port.type = 2
  ttl_type : ttl.type = 3
  ttl_length : ttl.info.length = 2
  rest_type : ∀ t ∈ rest, t.type ≠ 1 ∧ t.type ≠ 2 ∧ t.type ≠ 3

namespace Lldpdu

/-- The TLVs in order. -/
def tlvs (d : Lldpdu) : List SuppliedTlv := d.chassis :: d.port :: d.ttl :: d.rest

/-- What the TLVs say. -/
def content (d : Lldpdu) : List (Nat × Bytes) := d.tlvs.map SuppliedTlv.content

/-- No TLV but the last one marks the end. -/
def NoEnd (d : Lldpdu) : Prop := ∀ t ∈ d.rest, t.type ≠ 0

theorem order (d : Lldpdu) {before after : List SuppliedTlv} {t : SuppliedTlv}
    (h : d.tlvs = before ++ t :: after) :
    (before.length < 3 → t.type.toNat = before.length + 1) ∧
      (3 ≤ before.length → t ∈ d.rest) ∧ (t.type = 3 → t.info.length = 2) := by
  obtain ⟨chassis, port, ttl, rest, hc, hp, ht, htl, hrest⟩ := d
  simp only [tlvs] at h
  match before with
  | [] =>
    obtain ⟨rfl, -⟩ := List.cons.inj h
    refine ⟨fun _ => by rw [hc]; rfl, nofun, fun h3 => ?_⟩
    rw [hc] at h3
    cases h3
  | [_] =>
    obtain ⟨-, h⟩ := List.cons.inj h
    obtain ⟨rfl, -⟩ := List.cons.inj h
    refine ⟨fun _ => by rw [hp]; rfl, nofun, fun h3 => ?_⟩
    rw [hp] at h3
    cases h3
  | [_, _] =>
    obtain ⟨-, h⟩ := List.cons.inj h
    obtain ⟨-, h⟩ := List.cons.inj h
    obtain ⟨rfl, -⟩ := List.cons.inj h
    exact ⟨fun _ => by rw [ht]; rfl, nofun, fun _ => htl⟩
  | _ :: _ :: _ :: before =>
    obtain ⟨-, h⟩ := List.cons.inj h
    obtain ⟨-, h⟩ := List.cons.inj h
    obtain ⟨-, h⟩ := List.cons.inj h
    have hmem : t ∈ rest := by
      rw [h]
      exact List.mem_append_right _ (List.mem_cons_self ..)
    refine ⟨fun hlt => ?_, fun _ => hmem, fun h3 => absurd h3 (hrest t hmem).2.2⟩
    simp only [List.length_cons] at hlt
    omega

end Lldpdu

/-! ### Parsing -/

/-- A frame with these TLVs: the Ethernet header, the TLVs, the End TLV, and padding. -/
def Built (tlvs : List SuppliedTlv) (f : Frame) : Prop :=
  ∃ head pad, head.length = ethHlen ∧ f.bytes = head ++ (packAll tlvs ++ ([0, 0] ++ pad))

namespace Frame

theorem byte_of_bytes {f : Frame} {pre post : Bytes} {x : UInt8} (h : f.bytes = pre ++ x :: post) :
    f.byte pre.length = x := by
  rw [byte, h, List.append_assoc, List.getD_eq_getElem?_getD,
    List.getElem?_append_right (Nat.le_refl _)]
  simp

theorem word_of_bytes {f : Frame} {pre post : Bytes} {x y : UInt8}
    (h : f.bytes = pre ++ x :: y :: post) : f.word pre.length = x.toNat * 256 + y.toNat := by
  have hnext : f.bytes = (pre ++ [x]) ++ y :: post := by simp [h]
  have hy : f.byte (pre ++ [x]).length = y := byte_of_bytes hnext
  rw [List.length_append] at hy
  rw [word, byte_of_bytes h]
  exact congrArg (fun b : UInt8 => x.toNat * 256 + b.toNat) hy

theorem slice_of_bytes {f : Frame} (info : Bytes) :
    ∀ {pre post : Bytes}, f.bytes = pre ++ (info ++ post) →
        f.slice pre.length info.length = info := by
  induction info with
  | nil => exact fun _ => rfl
  | cons x info ih =>
    intro pre post h
    have hnext : f.bytes = (pre ++ [x]) ++ (info ++ post) := by simp [h]
    have hrest := ih hnext
    rw [List.length_append] at hrest
    unfold slice at hrest ⊢
    rw [List.length_cons, List.range_succ_eq_map, List.map_cons, List.map_map, Nat.add_zero,
      byte_of_bytes h]
    refine congrArg (x :: ·) (Eq.trans ?_ hrest)
    refine List.map_congr_left fun j _ => congrArg f.byte ?_
    simp only [List.length_singleton]
    omega

end Frame

namespace Built

variable {tlvs before after : List SuppliedTlv} {t : SuppliedTlv} {f : Frame}

theorem at_tlv (h : Built tlvs f) (ht : tlvs = before ++ t :: after) :
    f.word (ethHlen + (packAll before).length) = t.type.toNat * 512 + t.info.length ∧
      f.slice (ethHlen + (packAll before).length + 2) t.info.length = t.info ∧
      ethHlen + (packAll before).length + 2 + t.info.length ≤ f.size := by
  obtain ⟨head, pad, hhead, hbytes⟩ := h
  have htype := t.type_lt
  have hlen := t.info_le
  have hsplit : f.bytes = (head ++ packAll before) ++
      (t.packed ++ (packAll after ++ ([0, 0] ++ pad))) := by
    rw [hbytes, ht]
    simp
  have hoff : (head ++ packAll before).length = ethHlen + (packAll before).length := by
    rw [List.length_append, hhead]
  refine ⟨?_, ?_, ?_⟩
  · have hword := Frame.word_of_bytes hsplit
    rw [← hoff, hword, UInt8.toNat_ofNat', UInt8.toNat_ofNat']
    omega
  · have hbehind : f.bytes = (head ++ packAll before ++ t.packed.take 2) ++
        (t.info ++ (packAll after ++ ([0, 0] ++ pad))) := by
      rw [hsplit]
      simp [SuppliedTlv.packed]
    have hinfo := Frame.slice_of_bytes t.info hbehind
    rw [List.length_append, hoff] at hinfo
    exact hinfo
  · rw [Frame.size, hsplit, ← hoff]
    simp only [List.length_append, SuppliedTlv.length_packed]
    omega

theorem at_end (h : Built tlvs f) :
    f.word (ethHlen + (packAll tlvs).length) = 0 ∧
        ethHlen + (packAll tlvs).length + 2 ≤ f.size := by
  obtain ⟨head, pad, hhead, hbytes⟩ := h
  have hoff : (head ++ packAll tlvs).length = ethHlen + (packAll tlvs).length := by
    rw [List.length_append, hhead]
  have hsplit : f.bytes = (head ++ packAll tlvs) ++ 0 :: 0 :: pad := by rw [hbytes]; simp
  refine ⟨?_, ?_⟩
  · rw [← hoff, Frame.word_of_bytes hsplit]
    rfl
  · rw [Frame.size, hsplit, ← hoff]
    simp only [List.length_append, List.length_cons]
    omega

/-- The receive loop finds a TLV where the transmit side put it. The induction is on the
TLVs in front, from the last one on. -/
theorem offsetOf_eq (h : Built tlvs f) (before : List SuppliedTlv) :
    ∀ after, tlvs = before ++ after →
      f.offsetOf before.length = ethHlen + (packAll before).length := by
  induction before using List.reverseRecOn with
  | nil => exact fun _ _ => rfl
  | append_singleton before t ih =>
    intro after ht
    have hsplit : tlvs = before ++ t :: after := by rw [ht]; simp
    have hlen := t.info_le
    rw [List.length_append, List.length_singleton, Frame.offsetOf, ih _ hsplit,
      (h.at_tlv hsplit).1, packAll_append, List.length_append, packAll_cons, packAll_nil,
      List.append_nil, SuppliedTlv.length_packed]
    omega

theorem tlv_eq (h : Built tlvs f) (ht : tlvs = before ++ t :: after) (ref : Nat) :
    (f.tlv before.length ref).content = t.content ∧
      f.tlvType before.length = t.type.toNat := by
  obtain ⟨hword, hinfo, -⟩ := h.at_tlv ht
  have hoff := h.offsetOf_eq before _ ht
  have hlt := t.info_le
  have htype : f.tlvType before.length = t.type.toNat := by
    rw [Frame.tlvType, hoff, hword]
    omega
  have hlen : f.tlvLength before.length = t.info.length := by
    rw [Frame.tlvLength, hoff, hword]
    omega
  refine ⟨Prod.ext htype ?_, htype⟩
  show f.info before.length = t.info
  rw [Frame.info, hoff, hlen, hinfo]

theorem tlv_end (h : Built tlvs f) (ref : Nat) :
    (f.tlv tlvs.length ref).content = (0, []) ∧ f.tlvType tlvs.length = 0 := by
  have hoff := h.offsetOf_eq tlvs [] (by simp)
  have htype : f.tlvType tlvs.length = 0 := by rw [Frame.tlvType, hoff, h.at_end.1]
  have hlen : f.tlvLength tlvs.length = 0 := by rw [Frame.tlvLength, hoff, h.at_end.1]
  refine ⟨Prod.ext htype ?_, htype⟩
  show f.info tlvs.length = []
  rw [Frame.info, hlen]
  rfl

end Built

theorem valid_built {d : Lldpdu} {f : Frame} (h : Built d.tlvs f) {before after : List SuppliedTlv}
    {t : SuppliedTlv} (ht : d.tlvs = before ++ t :: after) : f.valid before.length = true := by
  obtain ⟨hword, -, hsize⟩ := h.at_tlv ht
  obtain ⟨hfirst, hlater, httl⟩ := d.order ht
  have hoff := h.offsetOf_eq before _ ht
  have hlen := t.info_le
  have htype : f.word (f.offsetOf before.length) / 512 = t.type.toNat := by
    rw [hoff, hword]
    omega
  have hlength : f.word (f.offsetOf before.length) % 512 = t.info.length := by
    rw [hoff, hword]
    omega
  unfold Frame.valid readTlv
  rw [htype, hlength, hoff]
  have hover : ¬ethHlen + (packAll before).length > f.size := by omega
  have horder : ¬(before.length + 1 ≤ 3 ∧ before.length + 1 ≠ t.type.toNat) := by
    rintro ⟨hle, hne⟩
    exact hne (hfirst (by omega)).symm
  have hextra : ¬(before.length + 1 > 3 ∧
      (t.type.toNat = 1 ∨ t.type.toNat = 2 ∨ t.type.toNat = 3)) := by
    rintro ⟨hgt, hbad⟩
    obtain ⟨h1, h2, h3⟩ := d.rest_type t (hlater (by omega))
    rcases hbad with hbad | hbad | hbad
    · exact h1 (UInt8.toNat_inj.mp hbad)
    · exact h2 (UInt8.toNat_inj.mp hbad)
    · exact h3 (UInt8.toNat_inj.mp hbad)
  have hthree : ¬(t.type.toNat = 3 ∧ t.info.length ≠ 2) := by
    rintro ⟨h3, hne⟩
    exact hne (httl (UInt8.toNat_inj.mp h3))
  have hfits : ¬ethHlen + (packAll before).length + t.info.length > f.size := by omega
  rw [if_neg hover, if_neg horder, if_neg hextra, if_neg hthree, if_neg hfits]
  rfl

theorem valid_end {d : Lldpdu} {f : Frame} (h : Built d.tlvs f) :
    f.valid d.tlvs.length = true := by
  obtain ⟨hword, hsize⟩ := h.at_end
  have hoff := h.offsetOf_eq d.tlvs [] (by simp)
  have hthree : 3 ≤ d.tlvs.length := by simp [Lldpdu.tlvs]
  unfold Frame.valid readTlv
  rw [hoff, hword]
  have hover : ¬ethHlen + (packAll d.tlvs).length > f.size := by omega
  have hfits : ¬ethHlen + (packAll d.tlvs).length + 0 % 512 > f.size := by omega
  have hlate : ¬(d.tlvs.length + 1 ≤ 3 ∧ d.tlvs.length + 1 ≠ 0 / 512) := by omega
  rw [if_neg hover, if_neg hlate, if_neg (by simp), if_neg (by simp), if_neg hfits]
  rfl

/-- What the receive loop makes of a frame with the TLVs `content`: the only error is that a
module rejects one of them, and the modules are offered them in order up to that one. -/
structure Parsed (out : Outcome μ) (content : List (Nat × Bytes)) : Prop where
  error : out.error = out.rejected.isSome
  created : out.created.map UnpackedTlv.content <+: content
  complete : out.rejected = none → out.created.map UnpackedTlv.content = content

theorem Parsed.cons {out : Outcome μ} {content : List (Nat × Bytes)} {tlv : UnpackedTlv}
    {stored : Bool} {x : Nat × Bytes} (h : Parsed out content) (hx : tlv.content = x) :
    Parsed (out.cons (tlv, stored)) (x :: content) where
  error := h.error
  created := by
    rw [Outcome.cons_created, List.map_cons, hx]
    exact (List.prefix_cons_inj x).mpr h.created
  complete hr := by
    rw [Outcome.cons_created, List.map_cons, hx, h.complete hr]

/-- The modules are offered the TLVs of the frame from any place on. The induction is on the
TLVs that are left. -/
theorem replay_built (env : Env μ) (p : Port) {d : Lldpdu} (hend : d.NoEnd) {f : Frame}
    (h : Built d.tlvs f) (after : List SuppliedTlv) :
    ∀ (before : List SuppliedTlv) (fuel ref : Nat) (o : Offer μ), d.tlvs = before ++ after →
      after.length < fuel → Parsed (replay env p f fuel before.length ref o)
        (after.map SuppliedTlv.content ++ [(0, [])]) := by
  induction after with
  | nil =>
    intro before fuel ref o ht hfuel
    obtain ⟨fuel, rfl⟩ := Nat.exists_eq_add_of_lt hfuel
    rw [List.append_nil] at ht
    subst ht
    obtain ⟨hcontent, htype⟩ := h.tlv_end ref
    cases hoffer : offerAll p env.modules (o.mark (f.tlvType d.tlvs.length))
        (f.tlv d.tlvs.length ref) (coreType (f.tlvType d.tlvs.length)) with
    | mk o' answer =>
      cases answer with
      | none =>
        rw [List.length_nil, replay_rejected (valid_end h) hoffer]
        exact ⟨rfl, by simp [Outcome.created, hcontent], fun h => by cases h⟩
      | some stored =>
        rw [List.length_nil, replay_taken (valid_end h) hoffer, if_pos htype]
        exact ⟨rfl, by simp [Outcome.created, hcontent],
          fun _ => by simp [Outcome.created, hcontent]⟩
  | cons t after ih =>
    intro before fuel ref o ht hfuel
    obtain ⟨fuel, rfl⟩ := Nat.exists_eq_add_of_lt hfuel
    obtain ⟨hcontent, htype⟩ := h.tlv_eq ht ref
    have hvalid := valid_built h ht
    have hne : f.tlvType before.length ≠ 0 := by
      rw [htype]
      intro h0
      have hzero : t.type = 0 := UInt8.toNat_inj.mp h0
      -- the first three have types of their own, and no later one marks the end
      by_cases hlt : before.length < 3
      · have := (d.order ht).1 hlt
        omega
      · exact hend t ((d.order ht).2.1 (by omega)) hzero
    cases hoffer : offerAll p env.modules (o.mark (f.tlvType before.length))
        (f.tlv before.length ref) (coreType (f.tlvType before.length)) with
    | mk o' answer =>
      cases answer with
      | none =>
        rw [replay_rejected hvalid hoffer]
        exact ⟨rfl, by simp [Outcome.created, hcontent], fun h => by cases h⟩
      | some stored =>
        rw [replay_taken hvalid hoffer, if_neg hne]
        have hrest := ih (before ++ [t]) ((t :: after).length + fuel) (ref + 1) o'
          (by rw [ht]; simp) (by rw [List.length_cons]; omega)
        rw [List.length_append, List.length_singleton] at hrest
        exact hrest.cons hcontent

theorem parsed_built (env : Env μ) (c : Ctx μ) {d : Lldpdu} (hend : d.NoEnd) {f : Frame}
    (h : Built d.tlvs f) : Parsed (c.outcome env f) (d.content ++ [(0, [])]) := by
  refine replay_built env c.port hend h d.tlvs [] _ _ _ rfl ?_
  -- there are more bytes than TLVs
  have hle : d.tlvs.length ≤ (packAll d.tlvs).length := by
    induction d.tlvs with
    | nil => exact Nat.le_refl 0
    | cons t tlvs ih =>
      rw [packAll_cons, List.length_append, SuppliedTlv.length_packed, List.length_cons]
      omega
  have hsize := h.at_end.2
  unfold tlvFuel
  omega

/-! ### Building -/

/-- The modules supply a list of TLVs: each one nothing, or any number of TLVs in one
string. -/
inductive Supplies (p : Port) (a : LldpAgent) :
    List (LldpModule μ) → μ → List SuppliedTlv → Prop
  | nil {m : μ} : Supplies p a [] m []
  | silent {np : LldpModule μ} {nps : List (LldpModule μ)} {m : μ} {tlvs : List SuppliedTlv}
      (hget : np.gettlv = none) (hrest : Supplies p a nps m tlvs) :
      Supplies p a (np :: nps) m tlvs
  | nothing {np : LldpModule μ} {nps : List (LldpModule μ)} {m m' : μ}
      {tlvs : List SuppliedTlv} {get : Port → LldpAgent → μ → μ × Option Bytes}
      (hget : np.gettlv = some get) (h : get p a m = (m', none))
      (hrest : Supplies p a nps m' tlvs) : Supplies p a (np :: nps) m tlvs
  | gives {np : LldpModule μ} {nps : List (LldpModule μ)} {m m' : μ}
      {own tlvs : List SuppliedTlv} {get : Port → LldpAgent → μ → μ × Option Bytes}
      (hget : np.gettlv = some get) (h : get p a m = (m', some (packAll own)))
      (hrest : Supplies p a nps m' tlvs) : Supplies p a (np :: nps) m (own ++ tlvs)

/-- The walk over the modules: their TLVs one behind the other, if there is room for them.
The induction is on the modules. -/
theorem gettlvAll_eq {p : Port} {a : LldpAgent} {nps : List (LldpModule μ)} {m : μ}
    {tlvs : List SuppliedTlv} (h : Supplies p a nps m tlvs) :
    ∀ acc : Bytes, acc.length ≤ ethDataLen →
      (gettlvAll p a nps m acc).2 =
        if acc.length + (packAll tlvs).length ≤ ethDataLen then some (acc ++ packAll tlvs)
        else none := by
  induction h with
  | nil =>
    intro acc hacc
    rw [gettlvAll, packAll_nil, List.length_nil, Nat.add_zero, if_pos hacc, List.append_nil]
  | silent hget _ ih =>
    intro acc hacc
    rw [gettlvAll, hget]
    exact ih acc hacc
  | nothing hget h _ ih =>
    intro acc hacc
    rw [gettlvAll, hget]
    dsimp only
    rw [h]
    exact ih acc hacc
  | @gives _ _ _ _ own tlvs _ hget h _ ih =>
    intro acc hacc
    rw [gettlvAll, hget]
    dsimp only
    rw [h]
    dsimp only
    rw [packAll_append, List.length_append]
    by_cases hroom : (packAll own).length + acc.length > ethDataLen
    · rw [if_pos hroom, if_neg (by omega)]
    · rw [if_neg hroom, ih (acc ++ packAll own) (by rw [List.length_append]; omega),
        List.length_append, List.append_assoc, Nat.add_assoc]

/-- What goes out for a list of TLVs: header, TLVs, End TLV, and zeros up to the smallest
frame. -/
def lldpduBytes (env : Env μ) (a : LldpAgent) (tlvs : List SuppliedTlv) : Bytes :=
  let b := ethHeader env a ++ packAll tlvs ++ packEndTlv
  b ++ List.replicate (ethZlen - b.length) 0

theorem length_ethHeader {env : Env μ} (haddr : env.ownSrcAddr.length = ethAlen) (a : LldpAgent) :
    (ethHeader env a).length = ethHlen := by
  have hmac : a.macAddr.length = ethAlen := by
    unfold LldpAgent.macAddr
    cases a.type <;> rfl
  simp only [ethHeader, List.length_append, hmac, haddr]
  rfl

theorem take_frameBuffer {b : Bytes} (hmax : b.length ≤ ethDataLen) :
    (frameBuffer b).take (if b.length - ethHlen < ethMinDataLen then ethZlen else b.length)
      = b ++ List.replicate (ethZlen - b.length) 0 := by
  have hdata : ethMinDataLen + ethHlen = ethZlen ∧ 0 < ethMinDataLen := by decide
  have hroom : ethZlen ≤ ethFrameLen ∧ ethDataLen ≤ ethFrameLen := by decide
  unfold frameBuffer
  split
  · next hshort =>
    rw [List.take_append, List.take_of_length_le (by omega), List.take_replicate]
    congr 2
    omega
  · next hlong =>
    rw [List.take_left, Nat.sub_eq_zero_of_le (by omega), List.replicate_zero, List.append_nil]

/-- `mibConstrInfoLLDPDU`: there is a frame if and only if the TLVs fit, and then it is built
from them. -/
theorem mibConstr_built {env : Env μ} {c : Ctx μ} {tlvs : List SuppliedTlv}
    (haddr : env.ownSrcAddr.length = ethAlen)
    (hsup : Supplies c.port { c.agent with tx := { c.agent.tx with frameout := none } }
      env.modules c.modules tlvs) :
    let a := (mibConstrInfoLLDPDU env c).agent
    (a.tx.frameout.isSome = true ↔ ethHlen + (packAll tlvs).length + 2 ≤ ethDataLen) ∧
      ∀ b, a.tx.frameout = some b → b.take a.tx.sizeout = lldpduBytes env c.agent tlvs := by
  intro a
  have hhead := length_ethHeader haddr c.agent
  have hheadle : (ethHeader env c.agent).length ≤ ethDataLen := by rw [hhead]; decide
  have hall := gettlvAll_eq hsup (ethHeader env c.agent) hheadle
  have ha : a = setFrameout { c.agent with tx := { c.agent.tx with frameout := none } }
      (gettlvAll c.port { c.agent with tx := { c.agent.tx with frameout := none } }
        env.modules c.modules (ethHeader env c.agent)).2 := rfl
  rw [hall, hhead] at ha
  by_cases hfit : ethHlen + (packAll tlvs).length + 2 ≤ ethDataLen
  · rw [if_pos (by omega)] at ha
    have hroom : ¬packEndTlv.length + (ethHeader env c.agent ++ packAll tlvs).length
        > ethDataLen := by
      rw [List.length_append, hhead]
      show ¬2 + _ > ethDataLen
      omega
    rw [setFrameout, if_neg hroom] at ha
    rw [ha]
    refine ⟨iff_of_true rfl hfit, ?_⟩
    intro b hb
    obtain rfl := Option.some.inj hb
    refine take_frameBuffer ?_
    rw [List.length_append, List.length_append, hhead]
    exact hfit
  · refine ⟨iff_of_false ?_ hfit, ?_⟩
    all_goals
      have hnone : a.tx.frameout = none := by
        rw [ha]
        split
        · have hroom : packEndTlv.length + (ethHeader env c.agent ++ packAll tlvs).length
              > ethDataLen := by
            rw [List.length_append, hhead]
            show 2 + _ > ethDataLen
            omega
          rw [setFrameout, if_pos hroom]
        · rfl
      rw [hnone]
      nofun

/-! ### Round trip -/

/-- A frame that carries the TLVs of `d` as they went out is taken apart into them by every
receiver: `rxProcessFrame` returns, finds the TLVs of `d` and the End TLV, and there is no error
unless a module of the receiver rejects one of them. -/
def ParsesAs (ν : Type) (bytes : Bytes) (d : Lldpdu) : Prop :=
  ∀ f : Frame, f.bytes = bytes → ∀ (env : Env ν) (c : Ctx ν), c.agent.rx.framein = some f →
    ∃ c', rxProcessFrame env c = .ok c' ∧ Processed c f (c.outcome env f) c' ∧
      Parsed (c.outcome env f) (d.content ++ [(0, [])])

/-- What `mibConstrInfoLLDPDU` makes of the TLVs of the modules: a frame if they fit, of which
everything that was built goes out, and which every receiver takes apart into them. -/
structure RoundTrips (ν : Type) (env : Env μ) (c : Ctx μ) (d : Lldpdu) : Prop where
  builds : (mibConstrInfoLLDPDU env c).agent.tx.frameout.isSome = true ↔
    ethHlen + (packAll d.tlvs).length + 2 ≤ ethDataLen
  covers : ∀ b, (mibConstrInfoLLDPDU env c).agent.tx.frameout = some b →
    b.take (mibConstrInfoLLDPDU env c).agent.tx.sizeout = lldpduBytes env c.agent d.tlvs
  parses : ∀ b, (mibConstrInfoLLDPDU env c).agent.tx.frameout = some b →
    ParsesAs ν (b.take (mibConstrInfoLLDPDU env c).agent.tx.sizeout) d

/-- A frame is parsed into the TLVs it was built from. -/
theorem roundTrips_of_noEnd (ν : Type) {env : Env μ} {c : Ctx μ} {d : Lldpdu}
    (haddr : env.ownSrcAddr.length = ethAlen) (hend : d.NoEnd)
    (hsup : Supplies c.port { c.agent with tx := { c.agent.tx with frameout := none } }
      env.modules c.modules d.tlvs) : RoundTrips ν env c d := by
  obtain ⟨hbuilds, hcovers⟩ := mibConstr_built haddr hsup
  refine ⟨hbuilds, hcovers, ?_⟩
  intro b hb f hf rcv r hr
  have hbytes : f.bytes = ethHeader env c.agent ++ (packAll d.tlvs ++ ([0, 0] ++
      List.replicate
        (ethZlen - (ethHeader env c.agent ++ packAll d.tlvs ++ packEndTlv).length) 0)) := by
    rw [hf, hcovers b hb, lldpduBytes]
    simp [packEndTlv]
  have hbuilt : Built d.tlvs f := ⟨_, _, length_ethHeader haddr c.agent, hbytes⟩
  have hsize : f.size ≠ 0 := by
    have := hbuilt.at_end.2
    omega
  obtain ⟨r', hr'⟩ := rxProcessFrame_total rcv hr hsize
  exact ⟨r', hr', rxProcessFrame_spec hr hr', parsed_built rcv r hend hbuilt⟩

/-! ### A TLV of type 0 that is not the last one -/

/-- The mandatory TLVs of a station: chassis `01`, port `02`, TTL 120. -/
def stationLldpdu : Lldpdu where
  chassis := ⟨1, [0x07, 0x01], by decide, by decide, by decide⟩
  port := ⟨2, [0x07, 0x02], by decide, by decide, by decide⟩
  ttl := ⟨3, [0x00, 0x78], by decide, by decide, by decide⟩
  rest := []
  chassis_type := rfl
  port_type := rfl
  ttl_type := rfl
  ttl_length := rfl
  rest_type := nofun

/-- An agent of that station. -/
def stationCtx : Ctx Unit :=
  { port := { portEnabled := true }, modules := ()
    agent := { type := .nearestBridge, adminStatus := .enabledRxTx } }

theorem supplies_station {p : Port} {nps : List (LldpModule Unit)} {a : LldpAgent}
    {tlvs : List SuppliedTlv} (hrest : Supplies p a nps () tlvs) :
    Supplies p a (stationMand :: nps) () (stationLldpdu.tlvs ++ tlvs) :=
  .gives rfl rfl hrest

/-- The same TLVs, a port description and one of an organisation -/
def describedLldpdu : Lldpdu :=
  { stationLldpdu with
    rest := [⟨4, [0x65, 0x74, 0x68, 0x30], by decide, by decide, by decide⟩,
      ⟨127, [0x00, 0x80, 0xc2, 0x0b, 0x08], by decide, by decide, by decide⟩]
    rest_type := by simp }

/-- What the module behind the mandatory TLVs packs -/
def describedTlvs : Bytes :=
  [0x08, 0x04, 0x65, 0x74, 0x68, 0x30, 0xfe, 0x05, 0x00, 0x80, 0xc2, 0x0b, 0x08]

def describedEnv : Env Unit :=
  { stationEnv with
    modules := [stationMand, { gettlv := some fun _ _ m => (m, some describedTlvs) }] }

theorem described_supplied (a : LldpAgent) :
    Supplies stationCtx.port a [{ gettlv := some fun _ _ m => (m, some describedTlvs) }] ()
      (describedLldpdu.rest ++ []) :=
  .gives rfl rfl .nil

/-- The frame of a station with its mandatory TLVs and two more is parsed into them. -/
theorem station_roundTrips : RoundTrips Unit describedEnv stationCtx describedLldpdu :=
  roundTrips_of_noEnd Unit rfl (by unfold Lldpdu.NoEnd; decide)
    (supplies_station (described_supplied _))

/-- The same TLVs, and one of type 0 with one byte behind them. -/
def earlyEndLldpdu : Lldpdu :=
  { stationLldpdu with
    rest := [⟨0, [0x2a], by decide, by decide, by decide⟩]
    rest_type := by simp }

/-- A station with a module that supplies the fourth one. -/
def earlyEndEnv : Env Unit :=
  { stationEnv with
    modules := [stationMand, { gettlv := some fun _ _ m => (m, some [0x00, 0x01, 0x2a]) }] }

theorem earlyEnd_supplied (a : LldpAgent) :
    Supplies stationCtx.port a [{ gettlv := some fun _ _ m => (m, some [0x00, 0x01, 0x2a]) }] ()
      (earlyEndLldpdu.rest ++ []) :=
  .gives rfl rfl .nil

/-- The frame that goes out. -/
def earlyEndFrame : Frame where
  bytes := lldpduBytes earlyEndEnv stationCtx.agent earlyEndLldpdu.tlvs
  past := []
  bytes_le := by decide +kernel

/-- The receiver. -/
def earlyEndReceiver : Ctx Unit :=
  { stationCtx with agent := { stationCtx.agent with
    rx := { stationCtx.agent.rx with framein := some earlyEndFrame } } }

/-- Not every list of TLVs comes back: the loop takes the fourth TLV for the End TLV. -/
theorem earlyEnd_not_roundTrips :
    ¬ ∀ (env : Env Unit) (c : Ctx Unit) (d : Lldpdu), env.ownSrcAddr.length = ethAlen →
      Supplies c.port { c.agent with tx := { c.agent.tx with frameout := none } }
        env.modules c.modules d.tlvs → RoundTrips Unit env c d := by
  intro hall
  have hsup : Supplies stationCtx.port
      { stationCtx.agent with tx := { stationCtx.agent.tx with frameout := none } }
      earlyEndEnv.modules stationCtx.modules earlyEndLldpdu.tlvs :=
    supplies_station (earlyEnd_supplied _)
  have hround := hall earlyEndEnv stationCtx earlyEndLldpdu rfl hsup
  obtain ⟨b, hb⟩ := Option.isSome_iff_exists.mp (hround.builds.mpr (by decide +kernel))
  obtain ⟨-, -, -, hparsed⟩ := hround.parses b hb earlyEndFrame (hround.covers b hb).symm
    stationEnv earlyEndReceiver rfl
  have hnone : (earlyEndReceiver.outcome stationEnv earlyEndFrame).rejected.isNone = true := by
    decide +kernel
  have hfour : (earlyEndReceiver.outcome stationEnv earlyEndFrame).created.length = 4 := by
    decide +kernel
  have hlen := congrArg List.length (hparsed.complete (Option.isNone_iff_eq_none.mp hnone))
  rw [List.length_map, hfour] at hlen
  exact absurd hlen (by decide)

end Lldpad.Lldp
