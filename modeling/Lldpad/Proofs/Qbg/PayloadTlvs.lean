import Lldpad.Proofs.Qbg.Vdp22Tlv
import Lldpad.Proofs.Qbg.Vdp22Total
import Lldpad.Qbg.Vdp22Receive

/-!
# `Lldpad.Proofs.Qbg.PayloadTlvs`: what is read of a TLV

The loop of `vdp22_input` gives the state machine a node for each VSI TLV that is complete.
`decoded` is the list of these nodes, and `vdp22Ecp22in_eq` says that the state machine gets
nothing else.

The fixed part of a VSI TLV is read whatever length the TLV has. The rest is read only if the
length is right, so the node is that of the bytes of the TLV alone (`decode_vsi`).
-/

namespace Lldpad.Qbg

open Lldpad.Lib
open Lldpad.Lldp (Bytes ethAlen)

/-! ### Decoding -/

/-- The TLV at `ptlv` in `vdp22_input`: the node on the stack, and whether the state machine gets
it -/
def decodeTlv (role : Vdp22Role) (mem : Bytes) (ptlv : Nat) (mode : UInt8) (vsi : Vsi22) :
    Except Fault (Vsi22 × Bool) :=
  if mode = vdp22Mgrid then do
    let mgrid ← extractNo mem (ptlv + 2) 16
    pure ({ vsi with mgrid := mgrid }, false)
  else if isVsiMode mode then ptlvToVsi22 role mem ptlv { vsi with vsiMode := mode }
  else pure (vsi, false)

/-- A node that the state machine gets, in front of others -/
def keepNode (x : Vsi22 × Bool) (nodes : List Vsi22) : List Vsi22 :=
  if x.2 then x.1 :: nodes else nodes

/-- The nodes that `vdp22_input` has for the state machine -/
def decodeLoop (role : Vdp22Role) (mem : Bytes) : Nat → Nat → Vsi22 → Except Fault (List Vsi22)
  | 0, _, _ => .error .outOfFuel
  | fuel + 1, ptlv, vsi => do
    let head ← ptlvAt mem ptlv
    if ptlvType head = vdp22Endtlv then pure []
    else do
      let x ← decodeTlv role mem ptlv (ptlvType head) vsi
      let nodes ← decodeLoop role mem fuel (ptlv + ptlvLength head) x.1
      pure (keepNode x nodes)

/-- The nodes that `vdp22_ecp22in` has for the state machine, if it takes the payload -/
def decoded (brDown : Bool) (role : Vdp22Role) (mem : Bytes) (inputLen : Nat) :
    Except Fault (Option (List Vsi22)) :=
  if role = .bridge ∧ brDown = true then pure none
  else do
    let accepted ← ecp22inAccepts mem inputLen
    if accepted then do
      let nodes ← decodeLoop role mem (mem.length + 1) 0 {}
      pure (some nodes)
    else pure none

/-- The state machine gets the nodes one after the other. -/
def actOn (nodes : List Vsi22) (c : Vdp22Ctx) : Except Fault Vdp22Ctx :=
  nodes.foldlM (fun c v => vdp22Tlv v c) c

theorem on_myrole {c c' : Vdp22Ctx} {h : Nat} {f : Vsi22Ctx → Except Fault Vsi22Ctx}
    (hon : c.on h f = .ok c') : c'.myrole = c.myrole := by
  obtain ⟨x, _, hput⟩ := bind_eq_ok.mp hon
  cases hput
  rfl

theorem vdp22Tlv_myrole {v : Vsi22} {c c' : Vdp22Ctx} (h : vdp22Tlv v c = .ok c') :
    c'.myrole = c.myrole := by
  unfold vdp22Tlv at h
  split at h
  · split at h
    · -- an answer of the bridge
      unfold vdp22BridgeInfo at h
      split at h
      · cases h
        rfl
      · exact on_myrole h
    · -- a request of the station
      unfold vdp22StationInfo at h
      split at h
      · split at h
        · cases h
          rfl
        · split at h
          · have hkeep := on_myrole h
            exact hkeep
          · cases h
            rfl
      · exact on_myrole h
  · cases h
    rfl

theorem vdp22Tlv_total (v : Vsi22) (c : Vdp22Ctx) : ∃ c', vdp22Tlv v c = .ok c' :=
  vdp22Step_total c (.tlv v)

theorem vdp22InputTlv_eq (mem : Bytes) (ptlv : Nat) (mode : UInt8) (vsi : Vsi22) (c : Vdp22Ctx) :
    vdp22InputTlv mem ptlv mode vsi c =
      (do
        let x ← decodeTlv c.myrole mem ptlv mode vsi
        let c ← if x.2 then vdp22Tlv x.1 c else pure c
        pure (x.1, c)) := by
  unfold vdp22InputTlv decodeTlv
  split_ifs
  · cases extractNo mem (ptlv + 2) 16 <;> rfl
  · rfl
  · rfl

theorem vdp22InputLoop_eq (mem : Bytes) : ∀ (fuel ptlv : Nat) (vsi : Vsi22) (c : Vdp22Ctx),
    vdp22InputLoop mem fuel ptlv vsi c =
      decodeLoop c.myrole mem fuel ptlv vsi >>= fun nodes => actOn nodes c := by
  intro fuel
  induction fuel with
  | zero => exact fun _ _ _ => rfl
  | succ fuel ih =>
    intro ptlv vsi c
    unfold vdp22InputLoop decodeLoop
    cases ptlvAt mem ptlv with
    | error e => rfl
    | ok head =>
      rw [bind_ok, bind_ok]
      split
      · rfl
      · rw [vdp22InputTlv_eq]
        cases decodeTlv c.myrole mem ptlv (ptlvType head) vsi with
        | error e => rfl
        | ok x =>
          obtain ⟨v, gets⟩ := x
          rw [bind_ok, bind_ok]
          cases gets with
          | false =>
            dsimp only
            rw [if_neg Bool.false_ne_true, pure_eq_ok, bind_ok, pure_eq_ok, bind_ok, ih]
            cases decodeLoop c.myrole mem fuel (ptlv + ptlvLength head) v <;> rfl
          | true =>
            dsimp only
            obtain ⟨c', hc'⟩ := vdp22Tlv_total v c
            rw [if_pos rfl, hc', bind_ok, pure_eq_ok, bind_ok, ih, vdp22Tlv_myrole hc']
            cases decodeLoop c.myrole mem fuel (ptlv + ptlvLength head) v with
            | error e => rfl
            | ok nodes =>
              show actOn nodes c' = actOn (v :: nodes) c
              unfold actOn
              rw [List.foldlM_cons, hc', bind_ok]

/-- What `vdp22_ecp22in` does with the nodes of a payload, if it takes it -/
def acted (nodes : Option (List Vsi22)) (c : Vdp22Ctx) : Except Fault (Vdp22Ctx × Bool) := do
  let d ← actOn (nodes.getD []) c
  pure (d, nodes.isSome)

theorem actOn_returns (nodes : List Vsi22) : ∀ c, ∃ d, actOn nodes c = .ok d := by
  induction nodes with
  | nil => exact fun c => ⟨c, rfl⟩
  | cons v nodes ih =>
    intro c
    obtain ⟨c', hc'⟩ := vdp22Tlv_total v c
    obtain ⟨d, hd⟩ := ih c'
    refine ⟨d, ?_⟩
    unfold actOn
    rw [List.foldlM_cons, hc', bind_ok]
    exact hd

theorem acted_eq (nodes : Option (List Vsi22)) (c : Vdp22Ctx) :
    ∃ d, acted nodes c = .ok (d, nodes.isSome) := by
  obtain ⟨d, hd⟩ := actOn_returns (nodes.getD []) c
  refine ⟨d, ?_⟩
  unfold acted
  rw [hd]
  rfl

theorem vdp22Ecp22in_eq (brDown : Bool) (mem : Bytes) (inputLen : Nat) (c : Vdp22Ctx) :
    vdp22Ecp22in brDown mem inputLen c =
      decoded brDown c.myrole mem inputLen >>= fun nodes => acted nodes c := by
  unfold vdp22Ecp22in decoded
  split
  · rfl
  · cases ecp22inAccepts mem inputLen with
    | error e => rfl
    | ok accepted =>
      rw [bind_ok, bind_ok]
      cases accepted with
      | false => rfl
      | true =>
        rw [if_pos rfl, if_pos rfl]
        unfold vdp22Input
        rw [vdp22InputLoop_eq]
        cases decodeLoop c.myrole mem (mem.length + 1) 0 {} <;> rfl

/-! ### Reads inside -/

variable {mem : Bytes}

theorem extract2o_returns {i : Nat} :
    Returns (extract2o mem i) ↔ i + 2 ≤ mem.length := by
  unfold extract2o
  rw [returns_bind fun _ => returns_bind_pure, readAt_returns, readAt_returns]
  omega

theorem extract3o_returns {i : Nat} :
    Returns (extract3o mem i) ↔ i + 3 ≤ mem.length := by
  unfold extract3o
  rw [returns_bind fun _ => returns_bind fun _ => returns_bind_pure, readAt_returns, readAt_returns,
    readAt_returns]
  omega

theorem extract4o_returns {i : Nat} :
    Returns (extract4o mem i) ↔ i + 4 ≤ mem.length := by
  unfold extract4o
  rw [returns_bind fun _ => returns_bind fun _ => returns_bind fun _ => returns_bind_pure,
    readAt_returns, readAt_returns, readAt_returns, readAt_returns]
  omega

theorem extractNo_returns {i n : Nat} :
    Returns (extractNo mem i n) ↔ i + n ≤ mem.length := by
  unfold extractNo
  rw [returns_bind_pure, sliceAt_returns]

theorem fixed_returns {i : Nat} {v : Vsi22} :
    Returns (ptlvToVsi22Fixed mem i v) ↔ i + 27 ≤ mem.length := by
  unfold ptlvToVsi22Fixed extract1o
  rw [returns_bind fun _ => returns_bind fun _ => returns_bind fun _ => returns_bind fun _ =>
    returns_bind fun _ => returns_bind fun _ => returns_bind_pure, readAt_returns,
    extract3o_returns, readAt_returns, readAt_returns, extractNo_returns, readAt_returns,
    extract2o_returns]
  omega

theorem fdata_returns {i : Nat} {fif : UInt8}
    (h : i + vsi22FdataSz fif ≤ mem.length) : Returns (ptlvToFdata mem i fif) := by
  unfold vsi22FdataSz at h
  unfold ptlvToFdata ethAlen
  split_ifs at h ⊢
  · rw [returns_bind_pure, extract2o_returns]
    exact h
  · rw [returns_bind fun _ => returns_bind_pure, sliceAt_returns, extract2o_returns]
    omega
  · rw [returns_bind fun _ => returns_bind_pure, extract4o_returns, extract2o_returns]
    omega
  · rw [returns_bind fun _ => returns_bind fun _ => returns_bind_pure, extract4o_returns,
      sliceAt_returns, extract2o_returns]
    omega
  · exact returns_ok _

theorem fdatas_returns {fif : UInt8} : ∀ {n i : Nat},
    i + n * vsi22FdataSz fif ≤ mem.length → Returns (ptlvToFdatas mem fif n i) := by
  intro n
  induction n with
  | zero => exact fun _ => returns_ok _
  | succ n ih =>
    intro i h
    rw [Nat.succ_mul] at h
    obtain ⟨fid, hfid⟩ : Returns (ptlvToFdata mem i fif) := fdata_returns (by omega)
    obtain ⟨fids, hfids⟩ := ih (i := i + vsi22FdataSz fif) (by omega)
    unfold ptlvToFdatas
    rw [hfid, bind_ok, hfids]
    exact returns_ok _

/-! ### Reads in the middle of a buffer -/

section Middle

variable (before w after : Bytes)

theorem extract2o_middle {j : Nat} (h : j + 2 ≤ w.length) :
    extract2o (before ++ w ++ after) (before.length + j) = extract2o w j := by
  unfold extract2o
  rw [readAt_middle before w after (by omega), Nat.add_assoc,
    readAt_middle before w after (by omega)]

theorem extract3o_middle {j : Nat} (h : j + 3 ≤ w.length) :
    extract3o (before ++ w ++ after) (before.length + j) = extract3o w j := by
  unfold extract3o
  rw [readAt_middle before w after (by omega), Nat.add_assoc,
    readAt_middle before w after (by omega), Nat.add_assoc,
    readAt_middle before w after (by omega)]

theorem extract4o_middle {j : Nat} (h : j + 4 ≤ w.length) :
    extract4o (before ++ w ++ after) (before.length + j) = extract4o w j := by
  unfold extract4o
  rw [readAt_middle before w after (by omega), Nat.add_assoc,
    readAt_middle before w after (by omega), Nat.add_assoc,
    readAt_middle before w after (by omega), Nat.add_assoc, readAt_middle before w after (by omega)]

theorem extractNo_middle {j n : Nat} (h : j + n ≤ w.length) :
    extractNo (before ++ w ++ after) (before.length + j) n = extractNo w j n := by
  unfold extractNo
  rw [sliceAt_middle before w after h]

theorem fixed_middle (h : 27 ≤ w.length) (v : Vsi22) :
    ptlvToVsi22Fixed (before ++ w ++ after) before.length v = ptlvToVsi22Fixed w 0 v := by
  unfold ptlvToVsi22Fixed extract1o
  simp only [Nat.add_assoc, Nat.zero_add, Nat.reduceAdd]
  rw [readAt_middle before w after (by omega), extract3o_middle before w after (by omega),
    readAt_middle before w after (by omega), readAt_middle before w after (by omega),
    extractNo_middle before w after (by omega), readAt_middle before w after (by omega),
    extract2o_middle before w after (by omega)]

theorem fdata_middle {j : Nat} {fif : UInt8} (h : j + vsi22FdataSz fif ≤ w.length) :
    ptlvToFdata (before ++ w ++ after) (before.length + j) fif = ptlvToFdata w j fif := by
  unfold vsi22FdataSz at h
  unfold ptlvToFdata ethAlen
  simp only [Nat.add_assoc]
  split_ifs at h ⊢
  · rw [extract2o_middle before w after (by omega)]
  · rw [sliceAt_middle before w after (by omega), extract2o_middle before w after (by omega)]
  · rw [extract4o_middle before w after (by omega), extract2o_middle before w after (by omega)]
  · rw [extract4o_middle before w after (by omega), sliceAt_middle before w after (by omega),
      extract2o_middle before w after (by omega)]
  · rfl

theorem fdatas_middle {fif : UInt8} : ∀ {n j : Nat}, j + n * vsi22FdataSz fif ≤ w.length →
    ptlvToFdatas (before ++ w ++ after) fif n (before.length + j) = ptlvToFdatas w fif n j := by
  intro n
  induction n with
  | zero => exact fun _ => rfl
  | succ n ih =>
    intro j h
    rw [Nat.succ_mul] at h
    unfold ptlvToFdatas
    rw [fdata_middle before w after (by omega), Nat.add_assoc, ih (by omega)]

end Middle

/-! ### A TLV -/

/-- The header of a TLV -/
def headOf (hi lo : UInt8) : UInt16 := (hi.toUInt16 <<< 8 : UInt16) ||| lo.toUInt16

/-- A TLV that is as long as its header says -/
structure Ptlv where
  hi : UInt8
  lo : UInt8
  body : Bytes
  length_body : body.length + 2 = ptlvLength (headOf hi lo)

namespace Ptlv

def type (t : Ptlv) : UInt8 := ptlvType (headOf t.hi t.lo)

/-- The bytes of a TLV -/
def wire (t : Ptlv) : Bytes := t.hi :: t.lo :: t.body

theorem length_wire (t : Ptlv) : t.wire.length = ptlvLength (headOf t.hi t.lo) := t.length_body

/-- The node that the state machine gets for a TLV behind the manager ID `mgrid`, if it gets one.
Only the bytes of the TLV matter. -/
def node (role : Vdp22Role) (mgrid : Octets 16) (t : Ptlv) : Option Vsi22 :=
  if isVsiMode t.type then
    match ptlvToVsi22 role t.wire 0 { mgrid := mgrid, vsiMode := t.type } with
    | .ok (v, true) => some v
    | _ => none
  else none

end Ptlv

theorem ptlvAt_middle (before after : Bytes) (hi lo : UInt8) (rest : Bytes) :
    ptlvAt (before ++ hi :: lo :: rest ++ after) before.length = .ok (headOf hi lo) := by
  have hread := extract2o_middle before (hi :: lo :: rest) after (j := 0)
    (by simp only [List.length_cons]; omega)
  exact hread

/-- What the fixed part of a VSI TLV fills in -/
structure VsiFields where
  status : UInt8
  typeId : UInt64
  typeVer : UInt8
  vsiFmt : UInt8
  vsi : Octets 16
  fif : UInt8

/-- The node with what a TLV fills in -/
def VsiFields.fill (f : VsiFields) (fids : Option (List Fid22)) (v : Vsi22) : Vsi22 :=
  { v with
    status := f.status
    typeId := f.typeId
    typeVer := f.typeVer
    vsiFmt := f.vsiFmt
    vsi := f.vsi
    fif := f.fif
    fdata := fids.getD v.fdata }

/-- What is read of a TLV does not depend on the node on the stack, but for its mode. -/
theorem ptlvToVsi22_fields (role : Vdp22Role) (mem : Bytes) (i : Nat) (mode : UInt8) :
    ∃ r : Except Fault (VsiFields × Option (List Fid22)), ∀ v : Vsi22, v.vsiMode = mode →
      ptlvToVsi22 role mem i v = r.map fun x => (x.1.fill x.2 v, x.2.isSome) := by
  unfold ptlvToVsi22 ptlvToVsi22Fixed
  dsimp only
  cases extract1o mem (i + 2) with
  | error e => exact ⟨.error e, fun _ _ => rfl⟩
  | ok status =>
  cases extract3o mem (i + 2 + 1) with
  | error e => exact ⟨.error e, fun _ _ => rfl⟩
  | ok typeId =>
  cases extract1o mem (i + 2 + 4) with
  | error e => exact ⟨.error e, fun _ _ => rfl⟩
  | ok typeVer =>
  cases extract1o mem (i + 2 + 5) with
  | error e => exact ⟨.error e, fun _ _ => rfl⟩
  | ok vsiFmt =>
  cases extractNo mem (i + 2 + 6) 16 with
  | error e => exact ⟨.error e, fun _ _ => rfl⟩
  | ok vsi =>
  cases extract1o mem (i + 2 + 22) with
  | error e => exact ⟨.error e, fun _ _ => rfl⟩
  | ok fif =>
  cases extract2o mem (i + 2 + 23) with
  | error e => exact ⟨.error e, fun _ _ => rfl⟩
  | ok noFdata =>
  cases ptlvAt mem i with
  | error e => exact ⟨.error e, fun _ _ => rfl⟩
  | ok head =>
    let fields : VsiFields := ⟨status, typeId, typeVer, vsiFmt, vsi, fif⟩
    -- the mode decides whether the answer is from the right side
    by_cases hgets : ptlvLength head = vsi22PtlvSz noFdata.toNat fif ∧ noFdata ≠ 0 ∧
        responseOk role { status := status, vsiMode := mode } = true
    · cases hfid : ptlvToFdatas mem fif noFdata.toNat (i + 2 + 25) with
      | error e =>
        refine ⟨.error e, ?_⟩
        rintro v rfl
        exact (if_pos hgets).trans (by rw [hfid]; rfl)
      | ok fids =>
        refine ⟨.ok (fields, some fids), ?_⟩
        rintro v rfl
        exact (if_pos hgets).trans (by rw [hfid]; rfl)
    · refine ⟨.ok (fields, none), ?_⟩
      rintro v rfl
      exact if_neg hgets

theorem fdatas_inside {t : Ptlv} (rest : Bytes) {n : Nat} {fif : UInt8}
    (h : ptlvLength (headOf t.hi t.lo) = vsi22PtlvSz n fif) :
    27 + n * vsi22FdataSz fif ≤ (t.wire ++ rest).length := by
  rw [List.length_append, t.length_wire, h]
  unfold vsi22PtlvSz vsi22TlvSz
  omega

theorem ptlvToVsi22_middle (role : Vdp22Role) (t : Ptlv) (rest : Bytes)
    (h : 27 ≤ (t.wire ++ rest).length) (before after : Bytes) (v : Vsi22) :
    ptlvToVsi22 role (before ++ (t.wire ++ rest) ++ after) before.length v =
      ptlvToVsi22 role (t.wire ++ rest) 0 v := by
  have hhead : ptlvAt (before ++ (t.wire ++ rest) ++ after) before.length =
      .ok (headOf t.hi t.lo) := ptlvAt_middle before after t.hi t.lo (t.body ++ rest)
  have hhead' : ptlvAt (t.wire ++ rest) 0 = .ok (headOf t.hi t.lo) := rfl
  unfold ptlvToVsi22
  rw [fixed_middle before _ after h, hhead, hhead']
  cases ptlvToVsi22Fixed (t.wire ++ rest) 0 v with
  | error e => rfl
  | ok x =>
    simp only [bind_ok]
    split
    · next hgets =>
      have hmiddle := fdatas_middle before (t.wire ++ rest) after (j := 27)
        (fdatas_inside rest hgets.1)
      exact congrArg (· >>= _) hmiddle
    · rfl

theorem ptlvToVsi22_returns {role : Vdp22Role} {t : Ptlv} {rest : Bytes} {v : Vsi22}
    (h : 27 ≤ (t.wire ++ rest).length) : Returns (ptlvToVsi22 role (t.wire ++ rest) 0 v) := by
  have hhead : ptlvAt (t.wire ++ rest) 0 = .ok (headOf t.hi t.lo) := rfl
  obtain ⟨x, hx⟩ := fixed_returns.mpr (show 0 + 27 ≤ (t.wire ++ rest).length by omega)
  unfold ptlvToVsi22
  rw [hx, bind_ok, hhead, bind_ok]
  split
  · next hgets =>
    obtain ⟨fids, hfids⟩ :
        Returns (ptlvToFdatas (t.wire ++ rest) x.1.fif x.2.toNat (0 + 2 + 25)) :=
      fdatas_returns (fdatas_inside rest hgets.1)
    rw [hfids]
    exact returns_ok _
  · exact returns_ok _

theorem ptlvToVsi22_short {role : Vdp22Role} {t : Ptlv} {rest : Bytes} {v : Vsi22}
    {x : Vsi22 × Bool} (hshort : t.wire.length < 27)
    (h : ptlvToVsi22 role (t.wire ++ rest) 0 v = .ok x) : x.2 = false := by
  have hhead : ptlvAt (t.wire ++ rest) 0 = .ok (headOf t.hi t.lo) := rfl
  obtain ⟨y, _, hy⟩ := bind_eq_ok.mp h
  rw [hhead, bind_ok] at hy
  rw [t.length_wire] at hshort
  split at hy
  · next hgets =>
    have hlen := hgets.1
    unfold vsi22PtlvSz vsi22TlvSz at hlen
    omega
  · cases hy
    rfl

theorem node_of_short {role : Vdp22Role} {t : Ptlv} (h : t.wire.length < 27) (g : Octets 16) :
    t.node role g = none := by
  have hstops : ¬ Returns (ptlvToVsi22 role t.wire 0 { mgrid := g, vsiMode := t.type }) := by
    rintro ⟨x, hx⟩
    obtain ⟨y, hy, _⟩ := bind_eq_ok.mp hx
    have hinside := fixed_returns.mp ⟨y, hy⟩
    omega
  unfold Ptlv.node
  split
  · split
    · next heq => exact absurd ⟨_, heq⟩ hstops
    · rfl
  · rfl

/-! ### The node on the stack -/

/-- The node on the stack of `vdp22_input` behind a manager ID: nothing but that and what TLVs
filled in -/
def OnStack (g : Octets 16) (v : Vsi22) : Prop :=
  ∃ (f : VsiFields) (fids : List Fid22) (mode : UInt8),
    v = f.fill (some fids) { mgrid := g, vsiMode := mode }

/-- A VSI TLV whose fixed part is inside: its node, and what is left on the stack -/
theorem decode_vsi {role : Vdp22Role} {t : Ptlv} {rest : Bytes} {g : Octets 16} {v : Vsi22}
    (hmode : isVsiMode t.type = true) (h : 27 ≤ (t.wire ++ rest).length) (hv : OnStack g v)
    (before after : Bytes) :
    ∃ x, ptlvToVsi22 role (before ++ (t.wire ++ rest) ++ after) before.length
        { v with vsiMode := t.type } = .ok x ∧ OnStack g x.1 ∧
      ∀ nodes, keepNode x nodes = (t.node role g).toList ++ nodes := by
  obtain ⟨f₀, fids₀, mode₀, rfl⟩ := hv
  let fresh : Vsi22 := { mgrid := g, vsiMode := t.type }
  let stack : Vsi22 := f₀.fill (some fids₀) fresh
  have hstack : ({ f₀.fill (some fids₀) { mgrid := g, vsiMode := mode₀ } with
      vsiMode := t.type } : Vsi22) = stack := rfl
  rw [hstack, ptlvToVsi22_middle role t rest h]
  obtain ⟨r, hr⟩ := ptlvToVsi22_fields role (t.wire ++ rest) 0 t.type
  obtain ⟨x, hx⟩ : Returns (ptlvToVsi22 role (t.wire ++ rest) 0 stack) := ptlvToVsi22_returns h
  have hfields := hr stack rfl
  rw [hx] at hfields
  cases r with
  | error e => cases hfields
  | ok r =>
    obtain ⟨f, fids⟩ := r
    obtain rfl : x = (f.fill fids stack, fids.isSome) := Except.ok.inj hfields
    have hfresh : ptlvToVsi22 role (t.wire ++ rest) 0 fresh =
        .ok (f.fill fids fresh, fids.isSome) := hr fresh rfl
    refine ⟨_, hx, ?_, ?_⟩
    · cases fids with
      | none => exact ⟨f, fids₀, t.type, rfl⟩
      | some fids => exact ⟨f, fids, t.type, rfl⟩
    · intro nodes
      by_cases hshort : t.wire.length < 27
      · have hgets : fids.isSome = false := ptlvToVsi22_short hshort hx
        rw [node_of_short hshort]
        rw [hgets]
        rfl
      · -- the TLV stands alone in its node
        have halone : ptlvToVsi22 role t.wire 0 fresh =
            ptlvToVsi22 role (t.wire ++ rest) 0 fresh := by
          have hmiddle := ptlvToVsi22_middle role t [] (by rw [List.append_nil]; omega) [] rest
            fresh
          rw [List.nil_append, List.append_nil] at hmiddle
          exact hmiddle.symm
        have hnode : t.node role g = if fids.isSome then some (f.fill fids fresh) else none := by
          unfold Ptlv.node
          rw [if_pos hmode]
          show (match ptlvToVsi22 role t.wire 0 fresh with
            | .ok (v, true) => some v
            | _ => none) = _
          rw [halone, hfresh]
          cases fids <;> rfl
        rw [hnode]
        cases fids <;> rfl

end Lldpad.Qbg
