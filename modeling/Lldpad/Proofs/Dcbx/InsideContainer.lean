import Lldpad.Dcbx.Container
import Lldpad.Proofs.Tlv.Pack

/-!
# `Lldpad.Proofs.Dcbx.InsideContainer`: the walk over the sub-TLVs

A sub-TLV is read where its bytes stand (`readSubTlv_eq_ok`), so a walk that returns has gone over
sub-TLVs that lie one behind the other, up to the end or up to an empty one (`walks_of_unpackLoop`).

The walk looks at no number of remaining bytes. It stays inside the TLV when there is nothing but
whole sub-TLVs up to the place where it ends, and an empty sub-TLV ends it without taking back
what is stored.
-/

namespace Lldpad.Dcbx

open Lldpad.Lib
open Lldpad.Lldp (Bytes)
open Lldpad.Tlv (UnpackedTlv wireBytes packHeader length_wireBytes ntohs_htons htons_ntohs
  packHeader_length packHeader_type packHeader_word toNat_headerType toNat_and_511)

/-! ### One sub-TLV -/

/-- A TLV that the seven and nine bits of a header can describe -/
structure OnWire (t : UnpackedTlv) : Prop where
  type : t.type.toNat < 128
  length : t.length.toNat ≤ 511

variable {s after s' : DcbxRx} {kept : Prop} {rest : Bytes} {current fuel i n : Nat} {ok : Bool}

theorem sliceAt_inside {info xs : Bytes} (hat : At info i xs) (hn : xs.length = n)
    (hle : i + n ≤ info.length) : sliceAt info i n = .ok ⟨xs, hn⟩ := by
  subst hn
  unfold sliceAt
  rw [dif_pos hle]
  exact congrArg _ (Subtype.ext hat.slice)

variable {info : Bytes} {t : UnpackedTlv} {ts : List UnpackedTlv}

theorem at_of_sliceAt {xs : {xs : Bytes // xs.length = n}}
    (h : sliceAt info i n = .ok xs) : At info i xs ∧ i + n ≤ info.length := by
  unfold sliceAt at h
  by_cases hle : i + n ≤ info.length
  · rw [dif_pos hle] at h
    cases h
    exact ⟨List.take_prefix _ _, hle⟩
  · rw [dif_neg hle] at h
    cases h

theorem copySubTlv_of_at {tl : UInt16}
    (htype : (tl >>> 9).toUInt8 = t.type) (hlen : tl &&& 0x01ff = t.length) (hat : At info i t.info)
    (hle : i + t.length.toNat ≤ info.length) : copySubTlv info i tl = .ok t := by
  cases t with
  | mk type length body hbody =>
    subst htype hlen
    unfold copySubTlv
    rw [sliceAt_inside hat hbody hle]
    rfl

theorem readSubTlv_eq_ok :
    readSubTlv info i = .ok t ↔ At info i (wireBytes t) ∧ OnWire t := by
  constructor
  · intro h
    obtain ⟨⟨head, hlen⟩, hhead, h⟩ := bind_eq_ok.mp h
    obtain ⟨⟨body, hbody⟩, hread, h⟩ := bind_eq_ok.mp h
    cases h
    obtain ⟨hathead, -⟩ := at_of_sliceAt hhead
    obtain ⟨hatbody, -⟩ := at_of_sliceAt hread
    match head, hlen with
    | [b, c], _ =>
      have htl := (Tlv.ntohs [b, c]).toNat_lt
      refine ⟨?_, ?_, ?_⟩
      · unfold wireBytes
        rw [packHeader_word, htons_ntohs]
        exact at_append_iff.mpr ⟨hathead, hatbody⟩
      · show ((Tlv.ntohs [b, c]) >>> 9).toUInt8.toNat < 128
        rw [toNat_headerType]
        omega
      · show ((Tlv.ntohs [b, c]) &&& 0x01ff).toNat ≤ 511
        rw [toNat_and_511]
        omega
  · rintro ⟨hat, htype, hlength⟩
    have hle := hat.length_le
    rw [length_wireBytes] at hle
    obtain ⟨hhead, hbody⟩ := at_append_iff.mp hat
    have hfirst : sliceAt info i 2 = .ok ⟨Tlv.htons (packHeader t.type t.length), rfl⟩ :=
      sliceAt_inside hhead rfl (by show i + 2 ≤ info.length; omega)
    have hword := ntohs_htons (packHeader t.type t.length) []
    rw [List.append_nil] at hword
    unfold readSubTlv
    rw [hfirst, bind_ok, hword]
    refine copySubTlv_of_at (packHeader_type htype _) (packHeader_length htype hlength) hbody ?_
    show i + 2 + t.length.toNat ≤ info.length
    omega

theorem eq_of_wireBytes_append {t u : UnpackedTlv} (ht : OnWire t) (hu : OnWire u)
    {rest' : Bytes} (h : wireBytes t ++ rest = wireBytes u ++ rest') :
    t = u ∧ rest = rest' := by
  have hfirst := readSubTlv_eq_ok.mpr ⟨at_zero (wireBytes t) rest, ht⟩
  rw [h, readSubTlv_eq_ok.mpr ⟨at_zero (wireBytes u) rest', hu⟩] at hfirst
  have htu := Except.ok.inj hfirst
  subst htu
  exact ⟨rfl, List.append_cancel_left h⟩

/-! ### Sub-TLVs one behind the other -/

/-- The bytes are TLVs one behind the other, and nothing else. -/
def Tiles (bytes : Bytes) : Prop :=
  ∃ ts : List UnpackedTlv, (∀ t ∈ ts, OnWire t) ∧ bytes = ts.flatMap wireBytes

theorem tiles_append_iff (hts : ∀ t ∈ ts, OnWire t) (rest : Bytes) :
    Tiles (ts.flatMap wireBytes ++ rest) ↔ Tiles rest := by
  induction ts with
  | nil => rfl
  | cons t ts ih =>
    obtain ⟨ht, hts⟩ := List.forall_mem_cons.mp hts
    rw [List.flatMap_cons, List.append_assoc, ← ih hts]
    constructor
    · rintro ⟨us, hus, h⟩
      cases us with
      | nil =>
        have hlen := congrArg List.length h
        simp only [List.length_append, length_wireBytes, List.flatMap_nil, List.length_nil] at hlen
        omega
      | cons u us =>
        obtain ⟨hu, hus⟩ := List.forall_mem_cons.mp hus
        rw [List.flatMap_cons] at h
        exact ⟨us, hus, (eq_of_wireBytes_append ht hu h).2⟩
    · rintro ⟨us, hus, h⟩
      exact ⟨t :: us, List.forall_mem_cons.mpr ⟨ht, hus⟩, by rw [List.flatMap_cons, h]⟩

theorem flatMap_wireBytes_eq_nil (h : ts.flatMap wireBytes = []) :
    ts = [] := by
  cases ts with
  | nil => rfl
  | cons t ts =>
    have hlen := congrArg List.length h
    rw [List.flatMap_cons, List.length_append, length_wireBytes, List.length_nil] at hlen
    omega

/-- A sub-TLV that does not end the walk -/
structure Whole (t : UnpackedTlv) : Prop extends OnWire t where
  nonzero : t.length ≠ 0

/-! ### The walk -/

variable {take : UnpackedTlv → DcbxRx → Except Fault DcbxRx}

/-- The `switch` on one sub-TLV after the other -/
def takeAll (take : UnpackedTlv → DcbxRx → Except Fault DcbxRx) (ts : List UnpackedTlv)
    (s : DcbxRx) : Except Fault DcbxRx := ts.foldlM (fun s t => take t s) s

theorem takeAll_cons (t : UnpackedTlv) (ts : List UnpackedTlv) (s : DcbxRx) :
    takeAll take (t :: ts) s = take t s >>= takeAll take ts := List.foldlM_cons

/-- How the walk ends: behind the last sub-TLV, or at an empty one -/
inductive Ends : Bool → Bytes → Prop where
  | last : Ends true []
  | empty {t : UnpackedTlv} {rest : Bytes} (ht : OnWire t) (hzero : t.length = 0) :
    Ends false (wireBytes t ++ rest)

theorem Ends.nil (h : Ends ok []) : ok = true := by
  generalize hnil : ([] : Bytes) = bytes at h
  cases h with
  | last => rfl
  | @empty t rest ht hzero =>
    have hlen := congrArg List.length hnil
    rw [List.length_append, length_wireBytes, List.length_nil] at hlen
    omega

/-- The walk goes over whole sub-TLVs, one of them at least when it ends well. -/
structure Walks (take : UnpackedTlv → DcbxRx → Except Fault DcbxRx) (bytes : Bytes)
    (s : DcbxRx) (ts : List UnpackedTlv) (after : DcbxRx) (ok : Bool) (rest : Bytes) : Prop where
  bytes : bytes = ts.flatMap wireBytes ++ rest
  whole : ∀ t ∈ ts, Whole t
  taken : takeAll take ts s = .ok after
  ends : Ends ok rest
  some : ok = true → ts ≠ []

theorem Walks.cons {bytes : Bytes} {s₁ : DcbxRx} (ht : Whole t) (htake : take t s = .ok s₁)
    (hbytes : bytes = ts.flatMap wireBytes ++ rest) (hwhole : ∀ t ∈ ts, Whole t)
    (htaken : takeAll take ts s₁ = .ok after) (hends : Ends ok rest) :
    Walks take (wireBytes t ++ bytes) s (t :: ts) after ok rest where
  bytes := by rw [hbytes, List.flatMap_cons, List.append_assoc]
  whole := List.forall_mem_cons.mpr ⟨ht, hwhole⟩
  taken := by rw [takeAll_cons, htake, bind_ok, htaken]
  ends := hends
  some := fun _ => List.cons_ne_nil _ _

theorem length_drop_lt
    (hfuel : (info.drop (dcbOuiSubtypeLen + current)).length < fuel + 1) (hn : 0 < n)
    (hin : dcbOuiSubtypeLen + current + n ≤ info.length) :
    (info.drop (dcbOuiSubtypeLen + (current + n))).length < fuel := by
  rw [List.length_drop] at hfuel ⊢
  omega

theorem walks_of_unpackLoop {last : Nat} (hlast : dcbOuiSubtypeLen + last = info.length)
    (hloop : unpackLoop take info last fuel current s = .ok (after, ok)) :
    ∃ ts rest, Walks take (info.drop (dcbOuiSubtypeLen + current)) s ts after ok rest := by
  induction fuel generalizing current s with
  | zero => cases hloop
  | succ fuel ih =>
    obtain ⟨t, hread, hloop⟩ := bind_eq_ok.mp hloop
    obtain ⟨hat, hwire⟩ := readSubTlv_eq_ok.mp hread
    have hdrop := hat.drop_eq
    have hlen := length_wireBytes t
    by_cases hzero : t.length = 0
    · rw [if_pos hzero] at hloop
      cases hloop
      exact ⟨[], _, hdrop, nofun, rfl, .empty hwire hzero, nofun⟩
    rw [if_neg hzero] at hloop
    obtain ⟨s₁, htake, hloop⟩ := bind_eq_ok.mp hloop
    have hwhole : Whole t := ⟨hwire, hzero⟩
    rw [hdrop]
    by_cases hmore : current + (t.length.toNat + 2) < last
    · have hpos : dcbOuiSubtypeLen + current + (wireBytes t).length =
          dcbOuiSubtypeLen + (current + (t.length.toNat + 2)) := by omega
      rw [if_pos hmore] at hloop
      rw [hpos]
      obtain ⟨ts, rest, hw⟩ := ih hloop
      exact ⟨t :: ts, rest, .cons hwhole htake hw.bytes hw.whole hw.taken hw.ends⟩
    · -- The last pass has come to the end of the TLV.
      rw [if_neg hmore] at hloop
      cases hloop
      have hnil : info.drop (dcbOuiSubtypeLen + current + (wireBytes t).length) = [] :=
        List.drop_eq_nil_of_le (by omega)
      rw [hnil]
      exact ⟨[t], [], .cons hwhole htake rfl nofun rfl .last⟩

/-- A walk is made by the loop. -/
theorem unpackLoop_of_walks {last : Nat} (hlast : dcbOuiSubtypeLen + last = info.length)
    (hfuel : (info.drop (dcbOuiSubtypeLen + current)).length < fuel)
    (hw : Walks take (info.drop (dcbOuiSubtypeLen + current)) s ts after ok rest) :
    unpackLoop take info last fuel current s = .ok (after, ok) := by
  induction ts generalizing fuel current s with
  | nil =>
    obtain ⟨hbytes, -, htaken, hends, hsome⟩ := hw
    cases hends with
    | last => exact absurd rfl (hsome rfl)
    | @empty t rest ht hzero =>
      cases htaken
      have hat : At info (dcbOuiSubtypeLen + current) (wireBytes t) := ⟨rest, hbytes.symm⟩
      match fuel, hfuel with
      | fuel + 1, _ =>
        unfold unpackLoop
        rw [readSubTlv_eq_ok.mpr ⟨hat, ht⟩, bind_ok, if_pos hzero]
        rfl
  | cons t ts ih =>
    obtain ⟨hbytes, hwhole, htaken, hends, -⟩ := hw
    obtain ⟨ht, hwhole⟩ := List.forall_mem_cons.mp hwhole
    rw [takeAll_cons] at htaken
    obtain ⟨s₁, htake, htaken⟩ := bind_eq_ok.mp htaken
    rw [List.flatMap_cons, List.append_assoc] at hbytes
    have hat : At info (dcbOuiSubtypeLen + current) (wireBytes t) := ⟨_, hbytes.symm⟩
    have hin := hat.length_le
    have hrest : info.drop (dcbOuiSubtypeLen + (current + (t.length.toNat + 2))) =
        ts.flatMap wireBytes ++ rest := by
      have hdrop := hat.drop_eq
      rw [hbytes, List.append_cancel_left_eq, length_wireBytes] at hdrop
      rw [hdrop]
      congr 1
      omega
    rw [length_wireBytes] at hin
    match fuel, hfuel with
    | fuel + 1, hfuel =>
      unfold unpackLoop
      rw [readSubTlv_eq_ok.mpr ⟨hat, ht.toOnWire⟩, bind_ok, if_neg ht.nonzero, htake, bind_ok]
      by_cases hmore : current + (t.length.toNat + 2) < last
      · rw [if_pos hmore]
        refine ih (length_drop_lt hfuel (by omega) (by omega)) ⟨hrest, hwhole, htaken, hends, ?_⟩
        -- There are bytes left, so an end without an empty sub-TLV is further on.
        rintro rfl rfl
        cases hends
        have hlen := congrArg List.length hrest
        rw [List.length_drop] at hlen
        simp only [List.flatMap_nil, List.append_nil, List.length_nil] at hlen
        omega
      · rw [if_neg hmore]
        have hnil : ts.flatMap wireBytes ++ rest = [] := by
          rw [← hrest]
          exact List.drop_eq_nil_of_le (by omega)
        obtain ⟨hts, rfl⟩ := List.append_eq_nil_iff.mp hnil
        cases flatMap_wireBytes_eq_nil hts
        cases htaken
        rw [hends.nil]
        rfl

/-! ### The `switch` -/

/-- Nothing is stored yet. -/
structure Blank (s : DcbxRx) : Prop where
  manifest : s.manifest = {}
  dcbdu : s.dcbdu = 0

/-- What a `switch` does with a sub-TLV that finds a place, or not, while nothing is stored. -/
structure Keeping (kept : Prop) (s s' : DcbxRx) : Prop where
  hasDcbx1 : s'.hasDcbx1 = s.hasDcbx1
  dcbxSt : s'.dcbxSt = s.dcbxSt
  stored : Blank s → kept → s'.dcbdu ≠ 0
  passed : Blank s → ¬ kept → Blank s'
  marked : s.dcbdu ≠ 0 → s'.dcbdu ≠ 0

/-- What a `switch` does with a sub-TLV of which it looks at the sub-type, or not -/
structure TakesAs (t : UnpackedTlv) (s : DcbxRx) (looked kept : Prop) (x : Except Fault DcbxRx) :
    Prop where
  returns : Returns x ↔ (looked → dcbxHdrSubTypeOffset < t.info.length)
  keeping {s' : DcbxRx} : x = .ok s' → Keeping kept s s'

/-- A `switch` looks at the sub-type of some sub-TLVs, and keeps some. -/
def Switch (take : UnpackedTlv → DcbxRx → Except Fault DcbxRx)
    (looks : Nat → UnpackedTlv → Prop) (keeps : Nat → Bool → UnpackedTlv → Prop) : Prop :=
  ∀ t s, TakesAs t s (looks s.dcbxSt t) (keeps s.dcbxSt s.hasDcbx1 t) (take t s)

variable {looks : Nat → UnpackedTlv → Prop} {keeps : Nat → Bool → UnpackedTlv → Prop}

theorem Switch.takeAll_returns (sw : Switch take looks keeps) (ts : List UnpackedTlv)
    (s : DcbxRx) : Returns (takeAll take ts s) ↔
      ∀ t ∈ ts, looks s.dcbxSt t → dcbxHdrSubTypeOffset < t.info.length := by
  induction ts generalizing s with
  | nil => exact iff_of_true (returns_ok s) nofun
  | cons t ts ih =>
    rw [takeAll_cons, List.forall_mem_cons, ← (sw t s).returns]
    cases htake : take t s with
    | error f => simp [Returns]
    | ok s₁ => rw [bind_ok, ih, ((sw t s).keeping htake).dcbxSt, and_iff_right (returns_ok s₁)]

theorem Switch.takeAll_marked (sw : Switch take looks keeps)
    (h : takeAll take ts s = .ok s') (hs : s.dcbdu ≠ 0) : s'.dcbdu ≠ 0 := by
  induction ts generalizing s with
  | nil =>
    cases h
    exact hs
  | cons t ts ih =>
    rw [takeAll_cons] at h
    obtain ⟨s₁, htake, h⟩ := bind_eq_ok.mp h
    exact ih h (((sw t s).keeping htake).marked hs)

theorem Switch.takeAll_blank (sw : Switch take looks keeps)
    (h : takeAll take ts s = .ok s') (hs : Blank s) :
    Blank s' ↔ ∀ t ∈ ts, ¬ keeps s.dcbxSt s.hasDcbx1 t := by
  induction ts generalizing s with
  | nil =>
    cases h
    exact iff_of_true hs nofun
  | cons t ts ih =>
    rw [takeAll_cons] at h
    obtain ⟨s₁, htake, h⟩ := bind_eq_ok.mp h
    have hstores := (sw t s).keeping htake
    rw [List.forall_mem_cons]
    by_cases hkeeps : keeps s.dcbxSt s.hasDcbx1 t
    · have hmarked := sw.takeAll_marked h (hstores.stored hs hkeeps)
      exact iff_of_false (fun hb => hmarked hb.dcbdu) fun hall => hall.1 hkeeps
    · rw [ih h (hstores.passed hs hkeeps), hstores.dcbxSt, hstores.hasDcbx1,
        and_iff_right hkeeps]

/-! ### The promise -/

/-- The container is read inside its TLV, and one that is not tiled is rejected with nothing
stored. -/
def ParsesInside (unpack : Bytes → DcbxRx → Except Fault (DcbxRx × Bool)) (info : Bytes)
    (s : DcbxRx) : Prop :=
  ∃ after ok, unpack info s = .ok (after, ok) ∧
    (¬ Tiles (info.drop dcbOuiSubtypeLen) →
      ok = false ∧ after.manifest = s.manifest ∧ after.dcbdu = s.dcbdu)

/-- Whole sub-TLVs, with the sub-types that are looked at. They fill the container, or an empty
one follows them: then the rest is tiled as well, or none of them finds a place. -/
def WholeUpToEnd (looks keeps : UnpackedTlv → Prop) (bytes : Bytes) : Prop :=
  ∃ ts : List UnpackedTlv,
    (∀ t ∈ ts, Whole t ∧ (looks t → dcbxHdrSubTypeOffset < t.info.length)) ∧
    (ts ≠ [] ∧ bytes = ts.flatMap wireBytes ∨
      ∃ t rest, OnWire t ∧ t.length = 0 ∧ bytes = ts.flatMap wireBytes ++ (wireBytes t ++ rest) ∧
        (Tiles rest ∨ ∀ t ∈ ts, ¬ keeps t))

/-- `agent->rx.dcbx_st` with the subtype of the TLV -/
def raisedSt (info : Bytes) (st : Nat) : Nat := max st (info.getD 3 0).toNat

theorem tiles_cons_iff (ht : OnWire t) :
    Tiles (wireBytes t ++ rest) ↔ Tiles rest := by
  have h := tiles_append_iff (List.forall_mem_singleton.mpr ht) rest
  rwa [List.flatMap_singleton] at h

/-- A walk keeps the promise exactly when it ends at the end of the container, or at an empty
sub-TLV with nothing stored or with a tiled rest. -/
theorem Switch.walks_iff (sw : Switch take looks keeps) {bytes : Bytes} (hs : Blank s) :
    (∃ after ok, (∃ ts rest, Walks take bytes s ts after ok rest) ∧
      (¬ Tiles bytes → ok = false ∧ Blank after)) ↔
    WholeUpToEnd (looks s.dcbxSt) (keeps s.dcbxSt s.hasDcbx1) bytes := by
  constructor
  · rintro ⟨after, ok, ⟨ts, rest, rfl, hwhole, htaken, hends, hsome⟩, hkept⟩
    have hlooks := (sw.takeAll_returns ts s).mp ⟨after, htaken⟩
    refine ⟨ts, fun t ht => ⟨hwhole t ht, hlooks t ht⟩, ?_⟩
    cases hends with
    | last => exact .inl ⟨hsome rfl, List.append_nil _⟩
    | @empty t rest ht hzero =>
      refine .inr ⟨t, rest, ht, hzero, rfl, ?_⟩
      rw [tiles_append_iff (fun t ht => (hwhole t ht).toOnWire), tiles_cons_iff ht] at hkept
      refine or_iff_not_imp_left.mpr fun hnot => ?_
      exact (sw.takeAll_blank htaken hs).mp (hkept hnot).2
  · rintro ⟨ts, hall, hcases⟩
    have hwire : ∀ t ∈ ts, OnWire t := fun t ht => (hall t ht).1.toOnWire
    obtain ⟨after, htaken⟩ := (sw.takeAll_returns ts s).mpr fun t ht => (hall t ht).2
    rcases hcases with ⟨hsome, rfl⟩ | ⟨t, rest, ht, hzero, rfl, hrest⟩
    · refine ⟨after, true, ⟨ts, [], ?_, fun t ht => (hall t ht).1, htaken, .last, fun _ => hsome⟩,
        fun hnot => absurd ⟨ts, hwire, rfl⟩ hnot⟩
      exact (List.append_nil _).symm
    · refine ⟨after, false,
        ⟨ts, _, rfl, fun t ht => (hall t ht).1, htaken, .empty ht hzero, nofun⟩, ?_⟩
      rw [tiles_append_iff hwire, tiles_cons_iff ht]
      intro hnot
      exact ⟨rfl, (sw.takeAll_blank htaken hs).mpr (hrest.resolve_left hnot)⟩

theorem Switch.parsesInside_iff (sw : Switch take looks keeps)
    (hlen : dcbOuiSubtypeLen ≤ info.length) (hs : Blank s) :
    ParsesInside (unpackTlvs take) info s ↔
      WholeUpToEnd (looks (raisedSt info s.dcbxSt)) (keeps (raisedSt info s.dcbxSt) s.hasDcbx1)
        (info.drop dcbOuiSubtypeLen) := by
  have hblank : Blank { s with dcbxSt := raisedSt info s.dcbxSt } := ⟨hs.manifest, hs.dcbdu⟩
  have hrun : unpackTlvs take info s = unpackLoop take info (info.length - dcbOuiSubtypeLen)
      (info.length + 1) 0 { s with dcbxSt := raisedSt info s.dcbxSt } := by
    have hread : readAt info 3 = .ok (info.getD 3 0) := by
      rw [readAt_eq_ok, List.getD_eq_getElem?_getD, List.getElem?_eq_getElem hlen]
      rfl
    unfold unpackTlvs
    rw [hread, bind_ok]
    rfl
  rw [← sw.walks_iff hblank]
  refine exists_congr fun after => exists_congr fun ok => ?_
  have hloop : unpackTlvs take info s = .ok (after, ok) ↔ ∃ ts rest,
      Walks take (info.drop dcbOuiSubtypeLen) { s with dcbxSt := raisedSt info s.dcbxSt } ts after
        ok rest := by
    rw [hrun]
    refine ⟨walks_of_unpackLoop (Nat.add_sub_cancel' hlen), ?_⟩
    rintro ⟨ts, rest, hw⟩
    refine unpackLoop_of_walks (Nat.add_sub_cancel' hlen) ?_ hw
    rw [List.length_drop]
    omega
  have hstored : after.manifest = s.manifest ∧ after.dcbdu = s.dcbdu ↔ Blank after := by
    rw [hs.manifest, hs.dcbdu]
    exact ⟨fun h => ⟨h.1, h.2⟩, fun h => ⟨h.manifest, h.dcbdu⟩⟩
  rw [hloop, hstored]

/-! ### The two functions -/

theorem keeping_self (hkept : ¬ kept) (s : DcbxRx) : Keeping kept s s where
  hasDcbx1 := rfl
  dcbxSt := rfl
  stored := fun _ h => absurd h hkept
  passed := fun hs _ => hs
  marked := id

theorem or_ne_zero_left {x y : UInt16} (h : x ≠ 0) : x ||| y ≠ 0 := fun h0 =>
  h (UInt16.or_eq_zero_iff.mp h0).1

theorem keeping_keep {slot : Option Bytes} (hslot : Blank s → slot = none)
    (m : Manifest) {rcvd : UInt16} (hrcvd : rcvd ≠ 0) (dup : UInt8) (hkept : kept) :
    Keeping kept s (s.keep slot m rcvd dup) := by
  cases hslot' : slot with
  | none =>
    refine ⟨rfl, rfl, fun hs _ => ?_, fun _ h => absurd hkept h, fun h => or_ne_zero_left h⟩
    show s.dcbdu ||| rcvd ≠ 0
    rw [hs.dcbdu]
    simpa using hrcvd
  | some info =>
    refine ⟨rfl, rfl, fun hs _ => ?_, fun _ h => absurd hkept h, id⟩
    rw [hslot hs] at hslot'
    cases hslot'

theorem Keeping.congr {kept' : Prop} (h : Keeping kept s s')
    (hiff : kept ↔ kept') : Keeping kept' s s' := by rwa [← propext hiff]

theorem keeping_ite {c : Prop} [Decidable c] {k : DcbxRx} (hkeep : Keeping True s k) :
    Keeping c s (if c then k else s) := by
  by_cases hc : c
  · rw [if_pos hc]
    exact hkeep.congr (iff_of_true trivial hc)
  · rw [if_neg hc]
    exact keeping_self hc s

theorem keeping_keepPg (s : DcbxRx) (info : Bytes) : Keeping True s (s.keepPg info) :=
  keeping_keep (fun hs => by rw [hs.manifest]) _ (by decide) _ trivial

theorem keeping_keepPfc (s : DcbxRx) (info : Bytes) : Keeping True s (s.keepPfc info) :=
  keeping_keep (fun hs => by rw [hs.manifest]) _ (by decide) _ trivial

theorem keeping_keepApp (s : DcbxRx) (info : Bytes) : Keeping True s (s.keepApp info) :=
  keeping_keep (fun hs => by rw [hs.manifest]) _ (by decide) _ trivial

theorem keeping_keepLlink (s : DcbxRx) (info : Bytes) : Keeping True s (s.keepLlink info) :=
  keeping_keep (fun hs => by rw [hs.manifest]) _ (by decide) _ trivial

theorem takesAs_ok {k : DcbxRx} {looked : Prop} (hnot : ¬ looked)
    (hkeep : Keeping kept s k) : TakesAs t s looked kept (.ok k) where
  returns := iff_of_true (returns_ok k) fun h => absurd h hnot
  keeping h := by
    cases h
    exact hkeep

theorem takesAs_keepSubtype0 (t : UnpackedTlv) (s : DcbxRx) {keep : DcbxRx → Bytes → DcbxRx}
    {looked : Prop} (hlooked : looked) (hkept : kept ↔ t.info[dcbxHdrSubTypeOffset]? = some 0)
    (hkeep : Keeping True s (keep s t.info)) :
    TakesAs t s looked kept (s.keepSubtype0 t keep) where
  returns := by
    unfold DcbxRx.keepSubtype0
    rw [returns_bind_pure, readAt_returns]
    exact ⟨fun h _ => h, fun h => h hlooked⟩
  keeping h := by
    obtain ⟨subtype, hread, h⟩ := bind_eq_ok.mp h
    cases h
    refine (keeping_ite hkeep).congr ?_
    rw [hkept, readAt_eq_ok.mp hread, Option.some.injEq]

/-- What `unpack_dcbx1_tlvs` looks at and keeps. Without the older protocol it keeps the control
sub-TLV and the logical link. -/
def looks1 (st : Nat) (t : UnpackedTlv) : Prop :=
  t.type = dcbApplicationTlv ∧ st = dcbxSubtype1 ∨ t.type = dcbLlinkTlv

def keeps1 (st : Nat) (_ : Bool) (t : UnpackedTlv) : Prop :=
  t.type = dcbControlTlv ∨
    (t.type = dcbPriorityGroupsTlv ∨ t.type = dcbPriorityFlowControlTlv) ∧ st = dcbxSubtype1 ∨
    looks1 st t ∧ t.info[dcbxHdrSubTypeOffset]? = some 0

/-- What `unpack_dcbx2_tlvs` looks at and keeps. It leaves the control sub-TLV to a TLV of the
older protocol. -/
def looks2 (_ : Nat) (t : UnpackedTlv) : Prop := t.type = dcbApplicationTlv2

def keeps2 (st : Nat) (hasDcbx1 : Bool) (t : UnpackedTlv) : Prop :=
  t.type = dcbControlTlv ∧ hasDcbx1 = false ∨ t.type = dcbPriorityGroupsTlv ∨
    t.type = dcbPriorityFlowControlTlv ∨
    looks2 st t ∧ t.info[dcbxHdrSubTypeOffset]? = some 0

theorem keeping_keepCtrl1 (s : DcbxRx) (info : Bytes) : Keeping True s (s.keepCtrl1 info) := by
  unfold DcbxRx.keepCtrl1
  by_cases hmark : s.dcbdu &&& rcvdDcbx1TlvCtrl = 0
  · rw [if_pos hmark]
    refine ⟨rfl, rfl, fun hs _ => ?_, fun _ h => absurd trivial h, fun h => or_ne_zero_left h⟩
    show s.dcbdu ||| rcvdDcbx1TlvCtrl ≠ 0
    rw [hs.dcbdu]
    decide
  · rw [if_neg hmark]
    refine ⟨rfl, rfl, fun hs _ => ?_, fun _ h => absurd trivial h, id⟩
    rw [hs.dcbdu] at hmark
    exact absurd rfl hmark

theorem keeping_keepCtrl2 (s : DcbxRx) (info : Bytes) :
    Keeping (s.hasDcbx1 = false) s (s.keepCtrl2 info) := by
  unfold DcbxRx.keepCtrl2
  by_cases hone : s.hasDcbx1 = true
  · rw [if_pos hone]
    exact keeping_self (by rw [hone]; nofun) s
  rw [if_neg hone]
  have hkept : s.hasDcbx1 = false := Bool.eq_false_iff.mpr hone
  cases hslot : s.manifest.ctrl with
  | none =>
    refine ⟨rfl, rfl, fun hs _ => ?_, fun _ h => absurd hkept h, fun h => or_ne_zero_left h⟩
    show s.dcbdu ||| rcvdDcbx2TlvCtrl ≠ 0
    rw [hs.dcbdu]
    decide
  | some old =>
    have hnot : ¬ Blank s := fun hs => by
      rw [hs.manifest] at hslot
      cases hslot
    simp only [Option.isNone_some, Bool.false_eq_true, if_false]
    split
    · exact ⟨rfl, rfl, fun hs => absurd hs hnot, fun hs => absurd hs hnot, id⟩
    · exact ⟨rfl, rfl, fun hs => absurd hs hnot, fun hs => absurd hs hnot, id⟩

theorem switch_takeDcbx1 : Switch takeDcbx1 looks1 keeps1 := by
  intro t s
  unfold takeDcbx1 keeps1 looks1
  by_cases hctrl : t.type = dcbControlTlv
  · rw [if_pos hctrl, hctrl]
    exact takesAs_ok (by simp [dcbControlTlv, dcbApplicationTlv, dcbLlinkTlv])
      ((keeping_keepCtrl1 s t.info).congr (by simp))
  rw [if_neg hctrl]
  by_cases hpg : t.type = dcbPriorityGroupsTlv
  · rw [if_pos hpg, hpg]
    refine takesAs_ok ?_ ((keeping_ite (keeping_keepPg s t.info)).congr ?_) <;>
      simp [dcbPriorityGroupsTlv, dcbControlTlv, dcbApplicationTlv, dcbLlinkTlv]
  rw [if_neg hpg]
  by_cases hpfc : t.type = dcbPriorityFlowControlTlv
  · rw [if_pos hpfc, hpfc]
    refine takesAs_ok ?_ ((keeping_ite (keeping_keepPfc s t.info)).congr ?_) <;>
      simp [dcbPriorityFlowControlTlv, dcbControlTlv, dcbApplicationTlv, dcbLlinkTlv]
  rw [if_neg hpfc]
  by_cases happ : t.type = dcbApplicationTlv
  · rw [if_pos happ]
    rw [happ] at hctrl hpg hpfc
    by_cases hcin : s.dcbxSt = dcbxSubtype1
    · rw [if_pos (by simpa using hcin)]
      exact takesAs_keepSubtype0 t s (.inl ⟨happ, hcin⟩) (by simp [happ, hcin, hctrl, hpg, hpfc])
        (keeping_keepApp s t.info)
    · rw [if_neg (by simpa using hcin)]
      have hlink : dcbApplicationTlv ≠ dcbLlinkTlv := by decide
      exact takesAs_ok (by simp [happ, hcin, hlink])
        (keeping_self (by simp [happ, hcin, hlink, hctrl]) s)
  rw [if_neg happ]
  by_cases hlink : t.type = dcbLlinkTlv
  · rw [if_pos hlink]
    rw [hlink] at hctrl hpg hpfc happ
    exact takesAs_keepSubtype0 t s (.inr hlink) (by simp [happ, hlink, hctrl, hpg, hpfc])
      (keeping_keepLlink s t.info)
  · rw [if_neg hlink]
    exact takesAs_ok (by simp [happ, hlink])
      (keeping_self (by simp [happ, hlink, hctrl, hpg, hpfc]) s)

theorem switch_takeDcbx2 : Switch takeDcbx2 looks2 keeps2 := by
  intro t s
  unfold takeDcbx2 keeps2 looks2
  by_cases hctrl : t.type = dcbControlTlv
  · rw [if_pos hctrl, hctrl]
    refine takesAs_ok (by decide) ((keeping_keepCtrl2 s t.info).congr ?_)
    simp [dcbControlTlv, dcbPriorityGroupsTlv, dcbPriorityFlowControlTlv, dcbApplicationTlv2]
  rw [if_neg hctrl]
  by_cases hpg : t.type = dcbPriorityGroupsTlv
  · rw [if_pos hpg, hpg]
    exact takesAs_ok (by decide) ((keeping_keepPg s t.info).congr (by simp))
  rw [if_neg hpg]
  by_cases hpfc : t.type = dcbPriorityFlowControlTlv
  · rw [if_pos hpfc, hpfc]
    exact takesAs_ok (by decide) ((keeping_keepPfc s t.info).congr (by simp))
  rw [if_neg hpfc]
  by_cases happ : t.type = dcbApplicationTlv2
  · rw [if_pos happ]
    rw [happ] at hctrl hpg hpfc
    exact takesAs_keepSubtype0 t s happ (by simp [happ, hctrl, hpg, hpfc])
      (keeping_keepApp s t.info)
  · rw [if_neg happ]
    exact takesAs_ok happ (keeping_self (by simp [happ, hctrl, hpg, hpfc]) s)

/-- What `dcbx_rchange` leaves behind the chassis ID of an LLDPDU -/
def frameRx (hasDcbx1 : Bool) (dcbxSt : Nat) (dupTlvs : UInt8) : DcbxRx :=
  { hasDcbx1, dcbxSt, dupTlvs }

/-- Both functions stay inside the TLV, and reject what is not tiled with nothing stored, exactly
for whole sub-TLVs up to the place where they end. -/
theorem containers_inside_iff (info : Bytes)
    (hlen : dcbOuiSubtypeLen ≤ info.length ∧ info.length ≤ 511) (hasDcbx1 : Bool) (dcbxSt : Nat)
    (dupTlvs : UInt8) :
    (ParsesInside unpackDcbx1Tlvs info (frameRx hasDcbx1 dcbxSt dupTlvs) ↔
      WholeUpToEnd (looks1 (raisedSt info dcbxSt)) (keeps1 (raisedSt info dcbxSt) hasDcbx1)
        (info.drop dcbOuiSubtypeLen)) ∧
    (ParsesInside unpackDcbx2Tlvs info (frameRx hasDcbx1 dcbxSt dupTlvs) ↔
      WholeUpToEnd (looks2 (raisedSt info dcbxSt)) (keeps2 (raisedSt info dcbxSt) hasDcbx1)
        (info.drop dcbOuiSubtypeLen)) := by
  have hblank : Blank (frameRx hasDcbx1 dcbxSt dupTlvs) := ⟨rfl, rfl⟩
  exact ⟨switch_takeDcbx1.parsesInside_iff hlen.1 hblank,
    switch_takeDcbx2.parsesInside_iff hlen.1 hblank⟩

-- An empty sub-TLV ends the walk of an untiled container, and the control sub-TLV stays stored.
example : (unpackDcbx1Tlvs [0x00, 0x1b, 0x21, 0x01, 0x02, 0x01, 0x07, 0x04, 0x00, 0x07]
    (frameRx false 0 0)).map (fun r => (r.1.manifest.ctrl, r.2)) = .ok (some [0x07], false) := rfl

/-- The control sub-TLV of a peer, alone in its TLV -/
def ctrlContainer : Bytes := [0x00, 0x1b, 0x21, 0x01, 0x02, 0x0a, 0, 0, 0, 0, 0, 1, 0, 0, 0, 1]

/-- It is parsed inside the TLV by both. -/
theorem ctrlContainer_inside :
    ParsesInside unpackDcbx1Tlvs ctrlContainer (frameRx false 0 0) ∧
      ParsesInside unpackDcbx2Tlvs ctrlContainer (frameRx false 0 0) := by
  have hctrl (looks keeps : UnpackedTlv → Prop)
      (hlooks : ∀ t : UnpackedTlv, t.type = 1 → ¬ looks t) :
      WholeUpToEnd looks keeps (ctrlContainer.drop dcbOuiSubtypeLen) := by
    refine ⟨[{ type := 1, length := 10, info := [0, 0, 0, 0, 0, 1, 0, 0, 0, 1]
               info_length := rfl }], ?_, .inl ⟨List.cons_ne_nil _ _, by decide⟩⟩
    rw [List.forall_mem_singleton]
    exact ⟨⟨⟨by decide, by decide⟩, by decide⟩, fun h => absurd h (hlooks _ rfl)⟩
  have hboth := containers_inside_iff ctrlContainer ⟨by decide, by decide⟩ false 0 0
  refine ⟨hboth.1.mpr (hctrl _ _ fun t ht => ?_), hboth.2.mpr (hctrl _ _ fun t ht => ?_)⟩
  · simp [looks1, ht, dcbApplicationTlv, dcbLlinkTlv]
  · simp [looks2, ht, dcbApplicationTlv2]

/-- One byte behind the control sub-TLV is taken for a header, whose second byte is not there. -/
theorem strayByte_outside :
    ¬ ParsesInside unpackDcbx1Tlvs (ctrlContainer ++ [0x02]) (frameRx false 0 0) := by
  rintro ⟨after, ok, hrun, -⟩
  have herror : unpackDcbx1Tlvs (ctrlContainer ++ [0x02]) (frameRx false 0 0) =
      .error .outOfBounds := rfl
  rw [herror] at hrun
  cases hrun

end Lldpad.Dcbx
