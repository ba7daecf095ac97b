import Lldpad.Clif.TlvDump

/-!
# `Lldpad.Proofs.Clif.TlvDump`: when a dump has the TLVs of the frame

`get_tlvs` copies a frame of any length, trusts the length of each TLV, goes on behind the End TLV
and prints what there is room for. So it is right about frames that are short enough and well
formed and end with the End TLV, and about no other frame that has an Ethernet header. The client
takes an organisationally specific TLV for another one when its id is as small as a type.

* `Splits`: the TLVs of a frame up to its End TLV, and what is behind it.
* `filter_splits`, `Quiet.run`: the loop before the End TLV and behind it.
* `printTlvs_iff`: when the client finds the TLVs that were printed.
* `tlvDump_iff`: when a dump is faithful.
-/

namespace Lldpad.Clif

open Lldpad.Lib
open Lldpad.Lldp (Bytes LldpAgent getLocalTlvs ethHlen)

/-! ### The TLVs of a frame -/

/-- A TLV with its header -/
structure DumpTlv where
  hi : UInt8
  lo : UInt8
  info : Bytes
  length_eq : info.length = beNat [hi, lo] % 512
  end_empty : beNat [hi, lo] / 512 = 0 → info = []
  org_id : beNat [hi, lo] / 512 = 127 → 4 ≤ info.length

/-- Two digits for each byte -/
def hexText (bytes : Bytes) : CStr := bytes.flatMap fun b => hexField 2 b.toNat

namespace DumpTlv

def type (t : DumpTlv) : Nat := beNat [t.hi, t.lo] / 512

/-- The type, or the OUI and subtype -/
def id (t : DumpTlv) : Nat := if t.type < 127 then t.type else beNat (t.info.take 4)

def toBytes (t : DumpTlv) : Bytes := t.hi :: t.lo :: t.info

/-- What is to be printed of a TLV -/
def printed (t : DumpTlv) : PrintedTlv where
  tlvid := t.id
  tlvLen := t.info.length
  info := hexText (if t.type < 127 then t.info else t.info.drop 4)

end DumpTlv

/-- The bytes are some TLVs, of which the last one is the End TLV, and a rest. -/
inductive Splits : Bytes → List DumpTlv → Bytes → Prop
  | last {t : DumpTlv} (h : t.type = 0) (rest : Bytes) : Splits (t.toBytes ++ rest) [t] rest
  | cons {t : DumpTlv} {p rest : Bytes} {ts : List DumpTlv} (h : t.type ≠ 0)
      (hp : Splits p ts rest) : Splits (t.toBytes ++ p) (t :: ts) rest

/-- The TLVs that a request is for -/
def wanted (tlvid : Nat) (ts : List DumpTlv) : List DumpTlv :=
  if tlvid = invalidTlvid then ts else ts.filter fun t => t.id = tlvid

def bytesOf (ts : List DumpTlv) : Bytes := ts.flatMap DumpTlv.toBytes

/-! ### A faithful dump -/

/-- The frame is the one that the agent has stored. -/
def Stored (q : TlvQuery) (agents : List LldpAgent) (frame : Bytes) : Prop :=
  ∃ a, agents.find? (fun a => a.type = q.type) = some a ∧
    if q.opLocal then a.tx.frameout = some frame ∧ a.tx.sizeout = frame.length
    else q.opNeighbor = true ∧ ∃ f, a.rx.framein = some f ∧ f.bytes = frame

/-- A request that `get_tlvs` does not refuse because of the agent, with room for an answer -/
def Served (q : TlvQuery) (rlen : Nat) : Prop :=
  (q.tlvid = vdpDraftTlvid → q.type = .nearestCustomerBridge) ∧ 0 < rlen

/-- The answer is an error when the TLVs cannot be told apart or do not fit. Otherwise it is the
wanted ones, and the client finds these in it. -/
def RightAnswer (tlvid rlen : Nat) (p : Bytes) : Except CmdErr CStr → Prop
  | .error _ => ∀ ts rest, Splits p ts rest →
      ¬(p.length ≤ tlvsLen ∧ 2 * (bytesOf (wanted tlvid ts)).length < rlen)
  | .ok text => ∃ ts rest, Splits p ts rest ∧ text = hexText (bytesOf (wanted tlvid ts)) ∧
      ∀ oldType oldId, printTlvs oldType oldId (text.length + 1) text =
        .ok ((wanted tlvid ts).map DumpTlv.printed, false)

def DumpFaithful (q : TlvQuery) (agents : List LldpAgent) (stack : Vector UInt8 tlvsLen)
    (rlen : Nat) : Prop :=
  ∀ frame, Stored q agents frame → Served q rlen →
    ∃ r, getTlvs q agents stack rlen = .ok r ∧ RightAnswer q.tlvid rlen (frame.drop ethHlen) r

/-- What stands in memory, read as TLVs up to `left` bytes, has none with the id, and no header is
behind the end of the memory. -/
inductive Quiet (tlvid : Nat) : Nat → Bytes → Prop
  | done (mem : Bytes) : Quiet tlvid 0 mem
  | next {left id len : Nat} {mem : Bytes} (hleft : 0 < left) (hhead : tlvHead mem = .ok (id, len))
      (hid : id ≠ tlvid) (h : Quiet tlvid (left - (2 + len)) (mem.drop (2 + len))) :
      Quiet tlvid left mem

/-- Nothing behind the End TLV gets into the answer. -/
def RestQuiet (tlvid rlen : Nat) (stack : Vector UInt8 tlvsLen) (ts : List DumpTlv)
    (p rest : Bytes) : Prop :=
  if tlvid = invalidTlvid then
    rest = [] ∨ rest.length = 1 ∧ rlen = 2 * (bytesOf ts).length + 1
  else Quiet tlvid rest.length (rest ++ stack.toList.drop p.length)

/-- The frame is shorter than its Ethernet header, or it is well formed and fits, what is behind
its End TLV does not matter, and the client can tell the wanted TLVs by their ids. -/
def FrameKept (tlvid rlen : Nat) (stack : Vector UInt8 tlvsLen) (frame : Bytes) : Prop :=
  frame.length < ethHlen ∨
    ∃ ts rest, Splits (frame.drop ethHlen) ts rest ∧ (frame.drop ethHlen).length ≤ tlvsLen ∧
      RestQuiet tlvid rlen stack ts (frame.drop ethHlen) rest ∧
      2 * (bytesOf (wanted tlvid ts)).length < rlen ∧
      ∀ t ∈ wanted tlvid ts, t.type = 127 → 127 < t.id

def DumpKept (q : TlvQuery) (agents : List LldpAgent) (stack : Vector UInt8 tlvsLen)
    (rlen : Nat) : Prop :=
  ∀ frame, Stored q agents frame → Served q rlen → FrameKept q.tlvid rlen stack frame

/-! ### Text -/

@[simp] theorem hexText_nil : hexText [] = [] := rfl

theorem hexText_cons (b : UInt8) (bytes : Bytes) :
    hexText (b :: bytes) = hexField 2 b.toNat ++ hexText bytes := List.flatMap_cons

theorem hexText_append (xs ys : Bytes) : hexText (xs ++ ys) = hexText xs ++ hexText ys :=
  List.flatMap_append

theorem length_hexField_byte (b : UInt8) : (hexField 2 b.toNat).length = 2 :=
  length_hexField (by decide) b.toNat_lt

@[simp] theorem length_hexText (bytes : Bytes) : (hexText bytes).length = 2 * bytes.length := by
  induction bytes with
  | nil => rfl
  | cons b bytes ih =>
    rw [hexText_cons, List.length_append, length_hexField_byte, ih, List.length_cons]
    omega

variable {stack : Vector UInt8 tlvsLen} {ts : List DumpTlv} {rlen : Nat} {rest p : Bytes}

/-- The loop that prints stops one character before the end of its room, or runs over it. -/
theorem hexLoop_eq {i : Nat} {text : CStr} {bytes : Bytes} (htext : text.length = 2 * i)
    (hroom : 2 * i < rlen) :
    hexLoop rlen i text bytes =
      if 2 * (i + bytes.length) ≤ rlen + 1 then .ok ((text ++ hexText bytes).take (rlen - 1))
      else .error .outOfBounds := by
  induction bytes generalizing i text with
  | nil =>
    rw [hexText_nil, List.append_nil, List.take_of_length_le (by omega),
      if_pos (by rw [List.length_nil]; omega)]
    rfl
  | cons b bytes ih =>
    rw [hexLoop, if_neg (by omega), List.take_of_length_le (by omega : text.length ≤ 2 * i), htext,
      hexText_cons]
    by_cases hnext : 2 * (i + 1) < rlen
    · rw [List.take_of_length_le (by rw [length_hexField_byte]; omega),
        ih (by rw [List.length_append, length_hexField_byte]; omega) hnext, List.append_assoc,
        List.length_cons, Nat.add_assoc i 1, Nat.add_comm 1]
    · -- the room ends with this byte
      have hcut : (text ++ (hexField 2 b.toNat ++ hexText bytes)).take (rlen - 1) =
          text ++ (hexField 2 b.toNat).take (rlen - 2 * i - 1) := by
        rw [List.take_append, List.take_of_length_le (by omega : text.length ≤ rlen - 1),
          List.take_append_of_le_length (by rw [length_hexField_byte]; omega), htext,
          Nat.sub_right_comm]
      rw [hcut]
      cases bytes with
      | nil =>
        rw [if_pos (by rw [List.length_singleton]; omega)]
        rfl
      | cons b' bytes =>
        have hlen : (text ++ (hexField 2 b.toNat).take (rlen - 2 * i - 1)).length < rlen := by
          rw [List.length_append, List.length_take, length_hexField_byte]
          omega
        rw [hexLoop, if_pos ⟨by omega, hlen⟩,
          if_neg (by rw [List.length_cons, List.length_cons]; omega)]

/-- When the printed text is that of the first bytes. -/
theorem hexLoop_prefix_iff (hrlen : 0 < rlen) (xs ys : Bytes) :
    hexLoop rlen 0 [] (xs ++ ys) = .ok (hexText xs) ↔
      2 * xs.length < rlen ∧ (ys = [] ∨ ys.length = 1 ∧ rlen = 2 * xs.length + 1) := by
  rw [hexLoop_eq rfl (by omega), List.nil_append, hexText_append, List.length_append]
  constructor
  · intro h
    split at h
    · next hfits =>
      have hlen := congrArg List.length (Except.ok.inj h)
      rw [List.length_take, List.length_append, length_hexText, length_hexText] at hlen
      refine ⟨by omega, ?_⟩
      by_cases hys : ys.length = 0
      · exact .inl (List.length_eq_zero_iff.mp hys)
      · exact .inr ⟨by omega, by omega⟩
    · cases h
  · rintro ⟨hxs, rfl | ⟨hys, hr⟩⟩
    · rw [if_pos (by rw [List.length_nil]; omega), hexText_nil, List.append_nil,
        List.take_of_length_le (by rw [length_hexText]; omega)]
    · rw [if_pos (by omega), List.take_left' (by rw [length_hexText]; omega)]


/-! ### The loop before the End TLV -/

section Loop

variable {tlvid size : Nat}

/-- `out` was moved to the front, and `rest` is still to be looked at. -/
structure Filtered (s : TlvFilter) (out rest : Bytes) : Prop where
  moff_le : s.moff ≤ s.off
  front : s.tlvs.take s.moff = out
  back : s.tlvs.drop s.off = rest
  length_out : out.length = s.moff

theorem tlvHead_toBytes (t : DumpTlv) (rest : Bytes) :
    tlvHead (t.toBytes ++ rest) = .ok (t.id, t.info.length) := by
  show tlvHead (t.hi :: t.lo :: (t.info ++ rest)) = _
  rw [tlvHead, t.length_eq, show invalidTlvid = 127 from rfl]
  unfold DumpTlv.id DumpTlv.type
  by_cases htype : beNat [t.hi, t.lo] / 512 < 127
  · rw [if_pos htype, if_pos htype]
  · have hword : beNat [t.hi, t.lo] < 256 ^ 2 := beNat_lt [t.hi, t.lo]
    have hfour := t.org_id (by omega)
    rw [if_neg htype, if_neg htype, if_pos (by rw [List.length_append]; omega),
      List.take_append_of_le_length hfour]

variable {s : TlvFilter}

/-- One TLV is moved to the front, or passed over. -/
theorem filterPass_tlv {out more : Bytes} {t : DumpTlv}
    (h : Filtered s out (t.toBytes ++ more)) (hoff : s.off < size) :
    ∃ s', filterPass tlvid size s = .ok (.again s') ∧
      Filtered s' (out ++ if t.id = tlvid then t.toBytes else []) more ∧
      s'.off = s.off + t.toBytes.length := by
  obtain ⟨hmoff, hfront, hback, hout⟩ := h
  have hlen : t.toBytes.length = 2 + t.info.length := by
    show t.info.length + 1 + 1 = _
    omega
  have hsize : t.toBytes.length + more.length = s.tlvs.length - s.off := by
    rw [← List.length_append, ← hback, List.length_drop]
  have hmore : s.tlvs.drop (s.off + (2 + t.info.length)) = more := by
    rw [← List.drop_drop, hback, ← hlen, List.drop_left]
  unfold filterPass
  rw [if_pos hoff, hback, tlvHead_toBytes, bind_ok]
  dsimp only
  by_cases hid : t.id = tlvid
  · rw [if_pos hid, if_pos hid]
    have hslice : sliceAt s.tlvs s.off (2 + t.info.length) = .ok ⟨t.toBytes, hlen⟩ :=
      sliceAt_of_at ⟨more, hback.symm⟩ hlen (by omega)
    have hwrite : writeAt s.tlvs s.moff t.toBytes =
        .ok (out ++ t.toBytes ++ s.tlvs.drop (s.moff + t.toBytes.length)) := by
      unfold writeAt
      rw [if_pos (.inr (by omega)), hfront]
    rw [hslice, bind_ok, hwrite, bind_ok]
    refine ⟨_, rfl, ⟨?_, ?_, ?_, ?_⟩, ?_⟩
    · show s.moff + (2 + t.info.length) ≤ s.off + (2 + t.info.length)
      omega
    · exact List.take_left' (by rw [List.length_append, hout, hlen])
    · -- the copy ends before the next TLV
      show (out ++ t.toBytes ++ _).drop (s.off + (2 + t.info.length)) = more
      rw [List.drop_append, List.drop_of_length_le (by rw [List.length_append]; omega),
        List.nil_append, List.drop_drop, List.length_append, hout, hlen, ← hmore]
      congr 1
      omega
    · rw [List.length_append, hout, hlen]
    · show s.off + (2 + t.info.length) = _
      rw [hlen]
  · rw [if_neg hid, if_neg hid, List.append_nil]
    refine ⟨_, rfl, ⟨?_, hfront, hmore, hout⟩, ?_⟩
    · show s.moff ≤ s.off + (2 + t.info.length)
      omega
    · show s.off + (2 + t.info.length) = _
      rw [hlen]

/-- The loop comes to what is behind the End TLV, with the TLVs that match at the front. -/
theorem filter_splits {p rest tail : Bytes} {ts : List DumpTlv} (hp : Splits p ts rest) :
    ∀ {s : TlvFilter} {out : Bytes} {fuel : Nat}, Filtered s out (p ++ tail) →
      s.off + p.length = size → p.length < fuel →
      ∃ s' fuel',
        iterate (filterPass tlvid size) fuel s = iterate (filterPass tlvid size) fuel' s' ∧
        Filtered s' (out ++ bytesOf (ts.filter fun t => t.id = tlvid)) (rest ++ tail) ∧
        s'.off + rest.length = size ∧ rest.length < fuel' := by
  -- one TLV, whatever follows it
  have hstep : ∀ (t : DumpTlv) (p : Bytes) {s : TlvFilter} {out : Bytes} {fuel : Nat},
      Filtered s out ((t.toBytes ++ p) ++ tail) → s.off + (t.toBytes ++ p).length = size →
      (t.toBytes ++ p).length < fuel →
      ∃ s' fuel',
        iterate (filterPass tlvid size) fuel s = iterate (filterPass tlvid size) fuel' s' ∧
        Filtered s' (out ++ if t.id = tlvid then t.toBytes else []) (p ++ tail) ∧
        s'.off + p.length = size ∧ p.length < fuel' := by
    intro t p s out fuel h hsize hfuel
    have hpos : 0 < t.toBytes.length := Nat.succ_pos _
    rw [List.length_append] at hsize hfuel
    rw [List.append_assoc] at h
    obtain ⟨s', hpass, hs', hoff⟩ := @filterPass_tlv tlvid size s out _ t h (by omega)
    cases fuel with
    | zero => omega
    | succ fuel =>
      exact ⟨s', fuel, iterate_succ_of_again hpass, hs', by omega, by omega⟩
  induction hp with
  | @last t _ rest =>
    intro s out fuel h hsize hfuel
    obtain ⟨s', fuel', hrun, hs', hoff, hlt⟩ := hstep t rest h hsize hfuel
    refine ⟨s', fuel', hrun, ?_, hoff, hlt⟩
    by_cases hid : t.id = tlvid <;> simpa [bytesOf, hid] using hs'
  | @cons t p rest ts _ _ ih =>
    intro s out fuel h hsize hfuel
    obtain ⟨s₁, fuel₁, hrun₁, hs₁, hoff₁, hlt₁⟩ := hstep t p h hsize hfuel
    obtain ⟨s', fuel', hrun, hs', hoff, hlt⟩ := ih hs₁ hoff₁ hlt₁
    refine ⟨s', fuel', hrun₁.trans hrun, ?_, hoff, hlt⟩
    by_cases hid : t.id = tlvid <;> simpa [bytesOf, hid] using hs'

/-! ### The loop behind the End TLV -/

/-- What one pass can do -/
theorem filterPass_cases {r : Pass TlvFilter TlvFilter} (h : filterPass tlvid size s = .ok r) :
    (size ≤ s.off ∧ r = .leave s) ∨
      ∃ id len, s.off < size ∧ tlvHead (s.tlvs.drop s.off) = .ok (id, len) ∧
        ((id = tlvid ∧ ∃ tlvs, tlvs.length = s.tlvs.length ∧ s.moff + (2 + len) ≤ tlvs.length ∧
            r = .again ⟨tlvs, s.off + (2 + len), s.moff + (2 + len)⟩) ∨
          (id ≠ tlvid ∧ r = .again { s with off := s.off + (2 + len) })) := by
  unfold filterPass at h
  by_cases hoff : s.off < size
  · rw [if_pos hoff] at h
    obtain ⟨⟨id, len⟩, hhead, h⟩ := bind_eq_ok.mp h
    refine .inr ⟨id, len, hoff, hhead, ?_⟩
    dsimp only at h
    by_cases hid : id = tlvid
    · rw [if_pos hid] at h
      obtain ⟨⟨tlv, htlv⟩, -, h⟩ := bind_eq_ok.mp h
      obtain ⟨tlvs, hwrite, h⟩ := bind_eq_ok.mp h
      cases h
      obtain ⟨hfits, hlen⟩ := writeAt_eq_ok hwrite
      dsimp only at hfits
      have hle := hfits (List.ne_nil_of_length_pos (by omega))
      exact .inl ⟨hid, tlvs, hlen, by omega, rfl⟩
    · rw [if_neg hid] at h
      cases h
      exact .inr ⟨hid, rfl⟩
  · rw [if_neg hoff] at h
    cases h
    exact .inl ⟨by omega, rfl⟩

/-- What is at the front grows, and stays inside. -/
theorem moff_mono {s' : TlvFilter} {fuel : Nat} (hs : s.moff ≤ s.tlvs.length)
    (h : iterate (filterPass tlvid size) fuel s = .ok s') :
    s.moff ≤ s'.moff ∧ s'.moff ≤ s'.tlvs.length := by
  let I (x : TlvFilter) : Prop := s.moff ≤ x.moff ∧ x.moff ≤ x.tlvs.length
  refine iterate_induction (I := I) (Q := I) ?_ ?_ fuel s s' ⟨Nat.le_refl _, hs⟩ h
  · intro a a' ha hpass
    rcases filterPass_cases hpass with ⟨-, hr⟩ | ⟨id, len, -, -, ⟨-, tlvs, -, hle, hr⟩ | ⟨-, hr⟩⟩
    · cases hr
    · cases hr
      exact ⟨Nat.le_trans ha.1 (Nat.le_add_right _ _), hle⟩
    · cases hr
      exact ha
  · intro a b ha hpass
    rcases filterPass_cases hpass with ⟨-, hr⟩ | ⟨id, len, -, -, ⟨-, tlvs, -, -, hr⟩ | ⟨-, hr⟩⟩
    · cases hr
      exact ha
    · cases hr
    · cases hr

/-- Where nothing matches, nothing is moved. -/
theorem Quiet.run {left : Nat} {mem : Bytes} (h : Quiet tlvid left mem) :
    ∀ {s : TlvFilter} {fuel : Nat}, s.tlvs.drop s.off = mem → size - s.off = left → left < fuel →
      ∃ s', iterate (filterPass tlvid size) fuel s = .ok s' ∧ s'.tlvs = s.tlvs ∧
        s'.moff = s.moff := by
  induction h with
  | done mem =>
    intro s fuel _ hleft hfuel
    have hpass : filterPass tlvid size s = .ok (.leave s) := if_neg (by omega)
    cases fuel with
    | zero => omega
    | succ fuel => exact ⟨s, iterate_succ_of_leave hpass, rfl, rfl⟩
  | @next left id len mem hpos hhead hid _ ih =>
    intro s fuel hmem hleft hfuel
    have hpass : filterPass tlvid size s = .ok (.again { s with off := s.off + (2 + len) }) := by
      unfold filterPass
      rw [if_pos (by omega), hmem, hhead, bind_ok]
      exact if_neg hid
    cases fuel with
    | zero => omega
    | succ fuel =>
      rw [iterate_succ_of_again hpass]
      refine ih (s := { s with off := s.off + (2 + len) }) ?_ ?_ (by omega)
      · rw [← hmem, List.drop_drop]
      · show size - (s.off + (2 + len)) = _
        omega

/-- Where nothing is moved, nothing matches. -/
theorem quiet_of_run {fuel : Nat} :
    ∀ {s s' : TlvFilter}, iterate (filterPass tlvid size) fuel s = .ok s' →
      s.moff ≤ s.tlvs.length → s'.moff < s.moff + 2 →
      Quiet tlvid (size - s.off) (s.tlvs.drop s.off) := by
  induction fuel with
  | zero =>
    intro s s' h
    cases h
  | succ fuel ih =>
    intro s s' h hs hmoff
    rcases iterate_succ_eq_ok.mp h with hpass | ⟨s₁, hpass, hrun⟩
    · rcases filterPass_cases hpass with ⟨hoff, -⟩ | ⟨id, len, -, -, ⟨-, tlvs, -, -, hr⟩ | ⟨-, hr⟩⟩
      · rw [Nat.sub_eq_zero_of_le hoff]
        exact .done _
      · cases hr
      · cases hr
    · rcases filterPass_cases hpass with ⟨-, hr⟩ |
        ⟨id, len, hoff, hhead, ⟨-, tlvs, -, hle, hr⟩ | ⟨hid, hr⟩⟩
      · cases hr
      · -- a copy is two bytes at least
        cases hr
        have hgrown := (moff_mono hle hrun).1
        dsimp only at hgrown
        omega
      · cases hr
        have hrest := ih hrun hs hmoff
        refine .next (by omega) hhead hid ?_
        rw [List.drop_drop]
        rwa [Nat.sub_sub]

end Loop


/-! ### The answer of the daemon -/

theorem Splits.bytes_eq (h : Splits p ts rest) :
    p = bytesOf ts ++ rest := by
  induction h with
  | last _ rest => simp [bytesOf]
  | cons _ _ ih => simpa [bytesOf] using ih

theorem Splits.last_only (h : Splits p ts rest) :
    ts.Pairwise fun t _ => t.type ≠ 0 := by
  induction h with
  | last _ _ => simp
  | cons ht _ ih => exact List.pairwise_cons.mpr ⟨fun _ _ => ht, ih⟩

/-- The first TLV is the End TLV, or there are more. -/
theorem Splits.head (h : Splits p ts rest) :
    ∃ t more, p = t.toBytes ++ more ∧ (t.type = 0 ∧ ts = [t] ∧ rest = more ∨ t.type ≠ 0) := by
  cases h with
  | @last t ht rest => exact ⟨t, rest, rfl, .inl ⟨ht, rfl, rfl⟩⟩
  | @cons t p _ _ ht _ => exact ⟨t, p, rfl, .inr ht⟩

/-- When the text is that of the wanted TLVs. -/
theorem dumpTlvs_iff {tlvid : Nat}
    (hrlen : 0 < rlen) (hp : Splits p ts rest) (hle : p.length ≤ tlvsLen) :
    dumpTlvs tlvid stack rlen p = .ok (hexText (bytesOf (wanted tlvid ts))) ↔
      RestQuiet tlvid rlen stack ts p rest ∧ 2 * (bytesOf (wanted tlvid ts)).length < rlen := by
  unfold dumpTlvs RestQuiet wanted
  rw [if_pos hle]
  by_cases hall : tlvid = invalidTlvid
  · simp only [if_pos hall]
    have hwhole := hexLoop_prefix_iff hrlen (bytesOf ts) rest
    rw [← hp.bytes_eq] at hwhole
    rw [hwhole]
    exact and_comm
  simp only [if_neg hall]
  generalize hwanted : bytesOf (ts.filter fun t => t.id = tlvid) = out
  have hstart : Filtered ⟨p ++ stack.toList.drop p.length, 0, 0⟩ []
      (p ++ stack.toList.drop p.length) := ⟨Nat.le_refl 0, rfl, rfl, rfl⟩
  obtain ⟨s, fuel, hrun, hs, hoff, hfuel⟩ :=
    @filter_splits tlvid p.length p rest _ ts hp _ _ (p.length + 1) hstart (Nat.zero_add _)
      (Nat.lt_succ_self _)
  rw [hwanted, List.nil_append] at hs
  have hmem : s.moff ≤ s.tlvs.length := by
    have hlen := congrArg List.length hs.front
    rw [List.length_take, hs.length_out] at hlen
    omega
  have hleft : p.length - s.off = rest.length := by omega
  rw [hrun]
  constructor
  · intro h
    obtain ⟨s', hs', hhex⟩ := bind_eq_ok.mp h
    obtain ⟨hge, hin⟩ := moff_mono hmem hs'
    have hsize : (s'.tlvs.take s'.moff).length = s'.moff := by
      rw [List.length_take]
      omega
    -- two bytes more would not be cut to the wanted text
    have hsame : s'.moff < s.moff + 2 ∧ 2 * out.length < rlen := by
      rw [hexLoop_eq rfl (by omega), List.nil_append] at hhex
      split at hhex
      · next hfits =>
        have hlen := congrArg List.length (Except.ok.inj hhex)
        rw [List.length_take, length_hexText, length_hexText, hsize] at hlen
        have hout := hs.length_out
        rw [hsize] at hfits
        omega
      · cases hhex
    have hquiet := quiet_of_run hs' hmem hsame.1
    rw [hleft, hs.back] at hquiet
    exact ⟨hquiet, hsame.2⟩
  · rintro ⟨hquiet, hroom⟩
    obtain ⟨s', hs', htlvs, hmoff⟩ := hquiet.run hs.back hleft hfuel
    rw [hs', bind_ok, htlvs, hmoff, hs.front]
    have hwhole := hexLoop_prefix_iff hrlen out []
    rw [List.append_nil] at hwhole
    exact hwhole.mpr ⟨hroom, .inl rfl⟩

theorem getTlvs_stored {q : TlvQuery} {agents : List LldpAgent}
    {frame : Bytes} (hstored : Stored q agents frame) (hserved : Served q rlen) :
    getTlvs q agents stack rlen =
      if frame.length < ethHlen then .ok (.error .invalid)
      else Except.ok <$> dumpTlvs q.tlvid stack rlen (frame.drop ethHlen) := by
  obtain ⟨a, hfind, hframe⟩ := hstored
  have hguard : ¬(q.tlvid = vdpDraftTlvid ∧ q.type ≠ .nearestCustomerBridge) :=
    fun h => h.2 (hserved.1 h.1)
  unfold getTlvs
  rw [if_neg hguard]
  cases hlocal : q.opLocal with
  | true =>
    rw [hlocal, if_pos rfl] at hframe
    obtain ⟨hout, hsize⟩ := hframe
    have hget : getLocalTlvs agents q.type = .ok
        (if frame.length < ethHlen then (.invalid, (frame.length : Int) - ethHlen, [])
          else (.success, (frame.length : Int) - ethHlen, frame.drop ethHlen)) := by
      unfold getLocalTlvs
      rw [hfind]
      simp only [hout, hsize]
      by_cases hshort : frame.length < ethHlen
      · rw [if_pos hshort, if_pos (by omega)]
      · rw [if_neg hshort, if_neg (by omega), if_pos (by omega),
          List.take_of_length_le (by rw [List.length_drop]; omega)]
    rw [if_neg (by simp), if_pos rfl, hget, bind_ok]
    by_cases hshort : frame.length < ethHlen
    · simp only [if_pos hshort]
      rfl
    · simp only [if_neg hshort]
  | false =>
    rw [hlocal, if_neg Bool.false_ne_true] at hframe
    obtain ⟨hneighbor, f, hin, rfl⟩ := hframe
    have hget : getNeighborTlvs agents q.type =
        if f.bytes.length < ethHlen then (.invalid, (f.bytes.length : Int) - ethHlen, [])
          else (.success, (f.bytes.length : Int) - ethHlen, f.bytes.drop ethHlen) := by
      unfold getNeighborTlvs
      rw [hfind]
      simp only [hin]
      have hsize : f.size = f.bytes.length := rfl
      by_cases hshort : f.bytes.length < ethHlen
      · rw [if_pos hshort]
        exact if_pos (by omega)
      · rw [if_neg hshort]
        exact if_neg (by omega)
    rw [if_neg (by simp [hneighbor]), if_neg Bool.false_ne_true, hget, pure_eq_ok, bind_ok]
    by_cases hshort : f.bytes.length < ethHlen
    · simp only [if_pos hshort]
      rfl
    · simp only [if_neg hshort]

/-! ### The client -/

/-- Bytes are read as they are printed. -/
theorem hexstr2bin_hexText (bytes old : Bytes) (rest : CStr) (h : old.length = bytes.length) :
    hexstr2bin (hexText bytes ++ rest) old = bytes := by
  induction bytes generalizing old with
  | nil =>
    rw [List.eq_nil_of_length_eq_zero h, hexstr2bin]
    simp
  | cons b bytes ih =>
    cases old with
    | nil => cases h
    | cons o old =>
      obtain ⟨c, d, hcd, hbyte⟩ := hexFixed_two b.toNat b.toNat_lt
      rw [hexText_cons, hexField_eq_hexFixed 2 b.toNat (by decide) b.toNat_lt, hcd]
      show hexstr2bin (c :: d :: (hexText bytes ++ rest)) (o :: old) = _
      rw [hexstr2bin, hbyte]
      rw [ih old (Nat.succ.inj h), UInt8.ofNat_toNat]

theorem hexNat_hexText (bytes : Bytes) (rest : CStr) (old : Nat) :
    hexNat bytes.length (hexText bytes ++ rest) old = beNat bytes := by
  unfold hexNat
  rw [hexstr2bin_hexText bytes _ rest (length_leBytes _ _)]

/-- What the client gives to the modules for a printed TLV -/
def DumpTlv.given (t : DumpTlv) : PrintedTlv where
  tlvid := t.id
  tlvLen := t.info.length
  info := (hexText t.info).drop (if invalidTlvid < t.id then 8 else 0)

theorem DumpTlv.type_le (t : DumpTlv) : t.type ≤ 127 := by
  have hword : beNat [t.hi, t.lo] < 256 ^ 2 := beNat_lt [t.hi, t.lo]
  unfold DumpTlv.type
  omega

theorem DumpTlv.id_of_lt {t : DumpTlv} (h : t.type < 127) : t.id = t.type := if_pos h

/-- The client is right about a TLV unless its OUI and subtype are taken for a type. -/
theorem DumpTlv.given_eq_iff (t : DumpTlv) :
    t.given = t.printed ↔ (t.type = 127 → 127 < t.id) := by
  have htype := t.type_le
  unfold given printed
  by_cases hlt : t.type < 127
  · have hid : ¬invalidTlvid < t.id := by
      rw [id_of_lt hlt]
      show ¬127 < t.type
      omega
    refine iff_of_true ?_ (by omega)
    rw [if_neg hid, if_pos hlt, List.drop_zero]
  · have hfour : 4 ≤ t.info.length := t.org_id (show t.type = 127 by omega)
    have hcut : (hexText t.info).drop 8 = hexText (t.info.drop 4) := by
      conv_lhs => rw [← List.take_append_drop 4 t.info, hexText_append]
      exact List.drop_left' (by rw [length_hexText, List.length_take]; omega)
    rw [if_neg hlt]
    by_cases hid : 127 < t.id
    · have hid' : invalidTlvid < t.id := hid
      refine iff_of_true ?_ fun _ => hid
      rw [if_pos hid', hcut]
    · have hid' : ¬invalidTlvid < t.id := hid
      refine iff_of_false ?_ fun h => hid (h (by omega))
      intro h
      have hlen := congrArg (fun x => x.info.length) h
      simp only [if_neg hid', List.drop_zero, length_hexText, List.length_drop] at hlen
      omega

/-- One TLV of the text -/
theorem printTlvs_tlv (oldType oldId fuel : Nat) (t : DumpTlv) (more : CStr) :
    printTlvs oldType oldId (fuel + 1) (hexText t.toBytes ++ more) =
      if t.id = 0 then .ok ([t.given], false)
      else (printTlvs oldType oldId fuel more).map fun r => (t.given :: r.1, r.2) := by
  have htext : hexText t.toBytes = hexText [t.hi, t.lo] ++ hexText t.info :=
    hexText_append [t.hi, t.lo] t.info
  have hfour : (hexText [t.hi, t.lo]).length = 4 := length_hexText _
  have hword : hexNat 2 (hexText t.toBytes ++ more) oldType = beNat [t.hi, t.lo] := by
    rw [htext, List.append_assoc]
    exact hexNat_hexText [t.hi, t.lo] _ oldType
  have hinfo : (hexText t.toBytes ++ more).drop 4 = hexText t.info ++ more := by
    rw [htext, List.append_assoc]
    exact List.drop_left' hfour
  have hid : (if beNat [t.hi, t.lo] / 512 < invalidTlvid then beNat [t.hi, t.lo] / 512
      else hexNat 4 (hexText t.info ++ more) oldId) = t.id := by
    have htype := t.type_le
    by_cases hlt : t.type < 127
    · have hlt' : beNat [t.hi, t.lo] / 512 < invalidTlvid := hlt
      rw [if_pos hlt', DumpTlv.id_of_lt hlt]
      rfl
    · have hlt' : ¬beNat [t.hi, t.lo] / 512 < invalidTlvid := hlt
      have horg : 4 ≤ t.info.length := t.org_id (show t.type = 127 by omega)
      have hread := hexNat_hexText (t.info.take 4) (hexText (t.info.drop 4) ++ more) oldId
      rw [← List.append_assoc, ← hexText_append, List.take_append_drop, List.length_take,
        Nat.min_eq_left horg] at hread
      unfold DumpTlv.id
      rw [if_neg hlt', if_neg hlt, hread]
  have hbehind : invalidTlvid < t.id → 8 ≤ (hexText t.info ++ more).length := by
    intro h
    have htype := t.type_le
    have hne : ¬t.type < 127 := by
      intro hlt
      rw [DumpTlv.id_of_lt hlt] at h
      have h' : 127 < t.type := h
      omega
    have horg : 4 ≤ t.info.length := t.org_id (show t.type = 127 by omega)
    rw [List.length_append, length_hexText]
    omega
  have hlen : (hexText t.toBytes ++ more).length = 4 + 2 * t.info.length + more.length := by
    rw [htext, List.length_append, List.length_append, hfour, length_hexText]
  rw [printTlvs, if_neg (by omega), if_neg (by omega), hword, hinfo]
  dsimp only
  rw [hid, ← t.length_eq, if_neg (by rw [List.length_append, length_hexText]; omega),
    if_neg (by intro h; have h' := hbehind h.1; omega),
    List.take_left' (length_hexText _), List.drop_left' (length_hexText _)]
  by_cases hzero : t.id = 0
  · rw [if_pos hzero, if_pos hzero]
    rfl
  · rw [if_neg hzero, if_neg hzero]
    cases printTlvs oldType oldId fuel more <;> rfl

/-- When the client finds the TLVs that were printed. -/
theorem printTlvs_iff (oldType oldId : Nat) {us : List DumpTlv} :
    (us.Pairwise fun t _ => t.type ≠ 0) → ∀ {fuel : Nat}, us.length < fuel →
      (printTlvs oldType oldId fuel (hexText (bytesOf us)) = .ok (us.map DumpTlv.printed, false) ↔
        ∀ t ∈ us, t.type = 127 → 127 < t.id) := by
  induction us with
  | nil =>
    intro _ fuel hfuel
    cases fuel with
    | zero => omega
    | succ fuel => exact iff_of_true rfl (by simp)
  | cons t us ih =>
    intro hlast fuel hfuel
    obtain ⟨ht, hus⟩ := List.pairwise_cons.mp hlast
    cases fuel with
    | zero => omega
    | succ fuel =>
      have htext : hexText (bytesOf (t :: us)) = hexText t.toBytes ++ hexText (bytesOf us) :=
        hexText_append t.toBytes (bytesOf us)
      rw [htext, printTlvs_tlv, List.forall_mem_cons, ← t.given_eq_iff, List.map_cons]
      by_cases hzero : t.id = 0
      · rw [if_pos hzero]
        by_cases htype : t.type = 0
        · -- the End TLV
          have hnil : us = [] := List.eq_nil_iff_forall_not_mem.mpr fun u hu => ht u hu htype
          subst hnil
          simp
        · have hwrong : t.given ≠ t.printed := by
            intro h
            have htle := t.type_le
            by_cases hlt : t.type < 127
            · exact htype ((DumpTlv.id_of_lt hlt).symm.trans hzero)
            · have hid := t.given_eq_iff.mp h (by omega)
              omega
          refine iff_of_false ?_ fun h => hwrong h.1
          intro h
          exact hwrong (List.cons.inj (Prod.mk.inj (Except.ok.inj h)).1).1
      · rw [if_neg hzero, ← ih hus (Nat.lt_of_succ_lt_succ hfuel)]
        cases printTlvs oldType oldId fuel (hexText (bytesOf us)) with
        | error f => simp [Except.map]
        | ok r =>
          obtain ⟨rs, corrupted⟩ := r
          simp [Except.map, and_assoc]

/-! ### Both -/

/-- When the dump of one frame is right. -/
theorem dumpFrame_iff {q : TlvQuery} {agents : List LldpAgent}
    {frame : Bytes} (hstored : Stored q agents frame) (hserved : Served q rlen) :
    (∃ r, getTlvs q agents stack rlen = .ok r ∧
        RightAnswer q.tlvid rlen (frame.drop ethHlen) r) ↔
      FrameKept q.tlvid rlen stack frame := by
  rw [getTlvs_stored hstored hserved]
  unfold FrameKept
  by_cases hshort : frame.length < ethHlen
  · rw [if_pos hshort]
    refine iff_of_true ⟨_, rfl, ?_⟩ (.inl hshort)
    -- nothing is left that could be a TLV
    intro ts rest hp _
    have hnil : frame.drop ethHlen = [] := List.drop_of_length_le (by omega)
    rw [hnil] at hp
    cases hp
  rw [if_neg hshort]
  generalize frame.drop ethHlen = p
  have hclient : ∀ {ts : List DumpTlv} {rest : Bytes}, Splits p ts rest →
      ((∀ oldType oldId, printTlvs oldType oldId
          ((hexText (bytesOf (wanted q.tlvid ts))).length + 1)
          (hexText (bytesOf (wanted q.tlvid ts))) =
          .ok ((wanted q.tlvid ts).map DumpTlv.printed, false)) ↔
        ∀ t ∈ wanted q.tlvid ts, t.type = 127 → 127 < t.id) := by
    intro ts rest hp
    have hlast : (wanted q.tlvid ts).Pairwise fun t _ => t.type ≠ 0 := by
      unfold wanted
      split
      · exact hp.last_only
      · exact hp.last_only.filter _
    have hcount : ∀ us : List DumpTlv, us.length ≤ (bytesOf us).length := by
      intro us
      induction us with
      | nil => exact Nat.le_refl 0
      | cons u us ih =>
        show us.length + 1 ≤ (u.toBytes ++ bytesOf us).length
        have hpos : 0 < u.toBytes.length := Nat.succ_pos _
        rw [List.length_append]
        omega
    have hfuel := hcount (wanted q.tlvid ts)
    have hone : ∀ oldType oldId, _ := fun oldType oldId =>
      @printTlvs_iff oldType oldId _ hlast
        ((hexText (bytesOf (wanted q.tlvid ts))).length + 1) (by rw [length_hexText]; omega)
    exact ⟨fun h => (hone 0 0).mp (h 0 0), fun h oldType oldId => (hone oldType oldId).mpr h⟩
  constructor
  · rintro ⟨r, hr, hright⟩
    cases hdump : dumpTlvs q.tlvid stack rlen p with
    | error f =>
      rw [hdump] at hr
      cases hr
    | ok text =>
      rw [hdump] at hr
      cases hr
      obtain ⟨ts, rest, hp, rfl, hprint⟩ := hright
      have hle : p.length ≤ tlvsLen := by
        unfold dumpTlvs at hdump
        split at hdump
        · next hle => exact hle
        · cases hdump
      obtain ⟨hrest, hroom⟩ := (dumpTlvs_iff hserved.2 hp hle).mp hdump
      exact .inr ⟨ts, rest, hp, hle, hrest, hroom, (hclient hp).mp hprint⟩
  · intro h
    rcases h with h | ⟨ts, rest, hp, hle, hrest, hroom, hids⟩
    · exact absurd h hshort
    · rw [(dumpTlvs_iff hserved.2 hp hle).mpr ⟨hrest, hroom⟩]
      exact ⟨_, rfl, ts, rest, hp, rfl, (hclient hp).mpr hids⟩

/-- When a dump is faithful. -/
theorem tlvDump_iff (q : TlvQuery) (agents : List LldpAgent) (stack : Vector UInt8 tlvsLen)
    (rlen : Nat) : DumpFaithful q agents stack rlen ↔ DumpKept q agents stack rlen :=
  forall_congr' fun _ => forall_congr' fun hstored => forall_congr' fun hserved =>
    dumpFrame_iff hstored hserved

/-- An agent with a frame of zeros of its neighbour -/
def zeroAgent (n : Nat) (h : n ≤ Lldp.l2BufferLen) : LldpAgent :=
  { type := .nearestBridge, rx := { framein := some ⟨List.replicate n 0, [], by simpa using h⟩ } }

/-- One byte behind the End TLV of a frame is in the answer. A frame of 2063 bytes is copied over
the end of `tlvs`. -/
theorem dump_unfaithful :
    (¬DumpFaithful ⟨false, true, .nearestBridge, 127⟩ [zeroAgent 17 (by decide)]
        (Vector.replicate tlvsLen 0) 4000 ∧
      getTlvs ⟨false, true, .nearestBridge, 127⟩ [zeroAgent 17 (by decide)]
        (Vector.replicate tlvsLen 0) 4000 = .ok (.ok "000000".toList)) ∧
    getTlvs ⟨false, true, .nearestBridge, 127⟩ [zeroAgent 2063 (by decide)]
      (Vector.replicate tlvsLen 0) 4000 = .error .outOfBounds := by
  have hserved : Served ⟨false, true, .nearestBridge, 127⟩ 4000 := ⟨nofun, by decide⟩
  have hstored : ∀ n h, Stored ⟨false, true, .nearestBridge, 127⟩ [zeroAgent n h]
      (List.replicate n 0) := fun n h => ⟨_, rfl, rfl, _, rfl, rfl⟩
  refine ⟨⟨?_, by decide +kernel⟩, ?_⟩
  · intro h
    rcases (dumpFrame_iff (hstored 17 _) hserved).mp (h _ (hstored 17 _) hserved) with
      hshort | ⟨ts, rest, hp, -, hrest, -⟩
    · revert hshort
      decide
    · obtain ⟨t, more, heq, hcases⟩ := hp.head
      -- the first two bytes are an End TLV
      obtain ⟨hhi, heq⟩ := List.cons.inj heq
      obtain ⟨hlo, heq⟩ := List.cons.inj heq
      have htype : t.type = 0 := by
        unfold DumpTlv.type
        rw [← hhi, ← hlo]
        rfl
      have hempty : t.info = [] := t.end_empty htype
      rw [hempty] at heq
      rcases hcases with ⟨-, rfl, rfl⟩ | hne
      · rcases hrest with hnil | ⟨-, hodd⟩
        · rw [hnil] at heq
          cases heq
        · have hlen : (bytesOf [t]).length = 2 := by simp [bytesOf, DumpTlv.toBytes, hempty]
          omega
      · exact hne htype
  · have hlong : ((List.replicate 2063 0 : Bytes).drop ethHlen).length = 2049 := by
      rw [List.length_drop, List.length_replicate]
      rfl
    rw [getTlvs_stored (hstored 2063 _) hserved,
      if_neg (by rw [List.length_replicate]; decide)]
    unfold dumpTlvs
    rw [if_neg (by rw [hlong]; decide)]
    rfl

end Lldpad.Clif
