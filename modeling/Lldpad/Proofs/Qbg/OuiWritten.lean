import Lldpad.Proofs.Qbg.BridgeAnswer
import Lldpad.Qbg.Vdp22Oui

/-!
# `Lldpad.Proofs.Qbg.OuiWritten`: the OUI data in a message and in a request

`vdp22st_process` sizes its message by what the handlers announce. Then `oui22_2tlv` hands the
offset from one handler to the next, and adds what each one answers. The handler that exists
answers with the position that it reached, so the third entry is written too far behind.
`payload_iff` says when the payload is the one that was announced.

`vdp22_modoui` returns behind the first entry that it changed. `modoui_iff` says when that is all
of the request.
-/

namespace Lldpad.Qbg

open Lldpad.Lib
open Lldpad.Lldp (Bytes)

variable {δ : Type}

/-! ### Sending -/

/-- What becomes of an entry in a message: nothing, where no handler is registered -/
def ouiPiece (hs : OuiHandlers δ) (vp : Vsi22) (ouiStr : Vdp22OuiData δ) : Piece UInt8 :=
  match hs ouiStr.ouiName with
  | none => ⟨[], false⟩
  | some ouiHndlr => ⟨ouiHndlr.fields vp ouiStr.data, ouiHndlr.absolute⟩

theorem oui22ToTlvFrom_eq (hs : OuiHandlers δ) (vp : Vsi22) (cp offset : Nat)
    (ouiStrData : List (Vdp22OuiData δ)) (buf : Bytes) :
    oui22ToTlvFrom hs vp cp offset ouiStrData buf =
      writePieces cp offset (ouiStrData.map (ouiPiece hs vp)) buf := by
  induction ouiStrData generalizing offset buf with
  | nil => rfl
  | cons ouiStr rest ih =>
    rw [List.map_cons, writePieces, oui22ToTlvFrom, ouiPiece]
    cases hs ouiStr.ouiName with
    | none =>
      rw [writeAt_nil, bind_ok]
      exact ih offset buf
    | some ouiHndlr =>
      dsimp only
      rw [ouiHndlr.tx_eq]
      cases writeAt buf (cp + offset) (ouiHndlr.fields vp ouiStr.data) with
      | error e => rfl
      | ok buf' => exact ih _ buf'

theorem ouiEntrySz_eq (hs : OuiHandlers δ) (vp : Vsi22) (ouiStr : Vdp22OuiData δ) :
    ouiEntrySz hs ouiStr = (ouiPiece hs vp ouiStr).content.length := by
  unfold ouiEntrySz ouiPiece
  cases hs ouiStr.ouiName with
  | none => rfl
  | some ouiHndlr => exact (ouiHndlr.fields_length vp ouiStr.data).symm

theorem oui22PtlvSz_eq (hs : OuiHandlers δ) (vp : Vsi22) (ouiStrData : List (Vdp22OuiData δ)) :
    oui22PtlvSz hs ouiStrData = (contents (ouiStrData.map (ouiPiece hs vp))).length := by
  have hfold (size : Nat) : ouiStrData.foldl (fun size ouiStr => size + ouiEntrySz hs ouiStr) size =
      size + (contents (ouiStrData.map (ouiPiece hs vp))).length := by
    induction ouiStrData generalizing size with
    | nil => rfl
    | cons ouiStr rest ih =>
      rw [List.foldl_cons, ih, ouiEntrySz_eq hs vp]
      simp [contents, Nat.add_assoc]
  rw [oui22PtlvSz, hfold 0, Nat.zero_add]

theorem vsi22ToTlv_length (v : Vsi22) (stat : UInt8) :
    (vsi22ToTlv v stat).length = vsi22PtlvSz v.fdata.length v.fif := by
  have hfdata : ∀ fdata : List Fid22, (fdata.flatMap (vsi22ToTlvFdata · v.fif)).length =
      fdata.length * vsi22FdataSz v.fif := by
    intro fdata
    induction fdata with
    | nil => exact (Nat.zero_mul _).symm
    | cons p fdata ih =>
      rw [List.flatMap_cons, List.length_append, vsi22ToTlvFdata_length, ih, List.length_cons,
        Nat.succ_mul, Nat.add_comm]
  simp only [vsi22ToTlv, List.length_append, hfdata, v.vsi.length_eq, vsi22PtlvSz, vsi22TlvSz]
  simp only [append2o, append3o, List.length_cons, List.length_nil]
  omega

/-- The number of bytes that a message has -/
def payloadSize (hs : OuiHandlers δ) (vsi : Vsi22) (ouiStrData : List (Vdp22OuiData δ)) : Nat :=
  mgr22PtlvSz + vsi22PtlvSz vsi.fdata.length vsi.fif + oui22PtlvSz hs ouiStrData

/-- The message that the sizes announce: the OUI fields of each entry behind the two TLVs, in
order -/
def payload (hs : OuiHandlers δ) (vsi : Vsi22) (ouiStrData : List (Vdp22OuiData δ)) : Bytes :=
  mgr22ToTlv vsi ++ vsi22ToTlv vsi vsi.hints ++
    ouiStrData.flatMap fun ouiStr => (ouiPiece hs vsi ouiStr).content

theorem payload_eq (hs : OuiHandlers δ) (vsi : Vsi22) (ouiStrData : List (Vdp22OuiData δ)) :
    payload hs vsi ouiStrData = mgr22ToTlv vsi ++ vsi22ToTlv vsi vsi.hints ++
      contents (ouiStrData.map (ouiPiece hs vsi)) := by
  rw [payload, contents, List.flatMap_map]

theorem payload_length (hs : OuiHandlers δ) (vsi : Vsi22) (ouiStrData : List (Vdp22OuiData δ)) :
    (payload hs vsi ouiStrData).length = payloadSize hs vsi ouiStrData := by
  rw [payload_eq, List.length_append, List.length_append, mgr22ToTlv_length, vsi22ToTlv_length,
    payloadSize, oui22PtlvSz_eq hs vsi]

/-- The payload is what was announced, and as long as the ECP module is told. -/
structure OuiWritten (hs : OuiHandlers δ) (vsi : Vsi22) (ouiStrData : List (Vdp22OuiData δ)) :
    Prop where
  buf : vdp22stProcessBuf hs vsi ouiStrData = .ok (payload hs vsi ouiStrData)
  len : (vdp22stProcessLen hs vsi ouiStrData).toNat = (payload hs vsi ouiStrData).length

/-- No entry whose handler answers with the position that it reached stands between two entries
that have something to send. -/
def NoneBetween (hs : OuiHandlers δ) (vsi : Vsi22) (ouiStrData : List (Vdp22OuiData δ)) : Prop :=
  ∀ a b c : Vdp22OuiData δ, [a, b, c].Sublist ouiStrData → (ouiPiece hs vsi b).absolute = true →
    (ouiPiece hs vsi a).content = [] ∨ (ouiPiece hs vsi c).content = []

theorem straight_iff (hs : OuiHandlers δ) (vsi : Vsi22) (ouiStrData : List (Vdp22OuiData δ)) :
    Straight (ouiStrData.map (ouiPiece hs vsi)) ↔ NoneBetween hs vsi ouiStrData := by
  constructor
  · intro h a b c hsub
    exact h _ _ _ (hsub.map (ouiPiece hs vsi))
  · intro h x y z hsub habs
    obtain ⟨l, hl, hxyz⟩ := List.sublist_map_iff.mp hsub
    match l, hxyz with
    | [a, b, c], hxyz =>
      simp only [List.map_cons, List.map_nil, List.cons.injEq, and_true] at hxyz
      obtain ⟨rfl, rfl, rfl⟩ := hxyz
      exact h a b c hl habs

theorem vdp22stProcessLen_toNat (hs : OuiHandlers δ) (vsi : Vsi22)
    (ouiStrData : List (Vdp22OuiData δ)) : (vdp22stProcessLen hs vsi ouiStrData).toNat =
      payloadSize hs vsi ouiStrData % 2 ^ 16 := rfl

theorem vdp22stProcessBuf_length {hs : OuiHandlers δ} {vsi : Vsi22}
    {ouiStrData : List (Vdp22OuiData δ)} {buf : Bytes}
    (h : vdp22stProcessBuf hs vsi ouiStrData = .ok buf) :
    buf.length = payloadSize hs vsi ouiStrData % 2 ^ 16 := by
  obtain ⟨buf₁, hmgr, h⟩ := bind_eq_ok.mp h
  obtain ⟨buf₂, hvsi, h⟩ := bind_eq_ok.mp h
  rw [oui22ToTlv, oui22ToTlvFrom_eq] at h
  rw [writePieces_length h, (writeAt_eq_ok hvsi).2, (writeAt_eq_ok hmgr).2, List.length_replicate,
    vdp22stProcessLen_toNat]

theorem vdp22stProcessBuf_iff {hs : OuiHandlers δ} {vsi : Vsi22}
    {ouiStrData : List (Vdp22OuiData δ)} (hlt : payloadSize hs vsi ouiStrData < 2 ^ 16) :
    vdp22stProcessBuf hs vsi ouiStrData = .ok (payload hs vsi ouiStrData) ↔
      NoneBetween hs vsi ouiStrData := by
  have hmgr : (List.replicate mgr22PtlvSz (0 : UInt8)).length = (mgr22ToTlv vsi).length := by
    rw [List.length_replicate, mgr22ToTlv_length]
  have hvsi : (List.replicate (vsi22PtlvSz vsi.fdata.length vsi.fif) (0 : UInt8)).length =
      (vsi22ToTlv vsi vsi.hints).length := by
    rw [List.length_replicate, vsi22ToTlv_length]
  have hbase : mgr22PtlvSz + vsi22PtlvSz vsi.fdata.length vsi.fif =
      (mgr22ToTlv vsi ++ vsi22ToTlv vsi vsi.hints).length := by
    rw [List.length_append, mgr22ToTlv_length, vsi22ToTlv_length]
  have hfirst : writeAt (List.replicate mgr22PtlvSz 0 ++
      List.replicate (vsi22PtlvSz vsi.fdata.length vsi.fif) 0 ++
        List.replicate (oui22PtlvSz hs ouiStrData) 0) 0 (mgr22ToTlv vsi) =
      .ok (mgr22ToTlv vsi ++ List.replicate (vsi22PtlvSz vsi.fdata.length vsi.fif) 0 ++
        List.replicate (oui22PtlvSz hs ouiStrData) 0) := by
    rw [List.append_assoc, List.append_assoc (mgr22ToTlv vsi)]
    exact @writeAt_append _ [] _ _ _ hmgr
  have hsecond : writeAt (mgr22ToTlv vsi ++
      List.replicate (vsi22PtlvSz vsi.fdata.length vsi.fif) 0 ++
        List.replicate (oui22PtlvSz hs ouiStrData) 0) mgr22PtlvSz (vsi22ToTlv vsi vsi.hints) =
      .ok (mgr22ToTlv vsi ++ vsi22ToTlv vsi vsi.hints ++
        List.replicate (oui22PtlvSz hs ouiStrData) 0) := by
    rw [← mgr22ToTlv_length vsi]
    exact writeAt_append hvsi
  have hold : (List.replicate (oui22PtlvSz hs ouiStrData) (0 : UInt8)).length =
      (contents (ouiStrData.map (ouiPiece hs vsi))).length := by
    rw [List.length_replicate]
    exact oui22PtlvSz_eq hs vsi ouiStrData
  unfold vdp22stProcessBuf
  dsimp only
  rw [vdp22stProcessLen_toNat, Nat.mod_eq_of_lt hlt, payloadSize, List.replicate_add,
    List.replicate_add, hfirst, bind_ok, hsecond, bind_ok, oui22ToTlv, oui22ToTlvFrom_eq, hbase,
    payload_eq, writePieces_iff hold]
  exact straight_iff hs vsi ouiStrData

theorem payload_iff (hs : OuiHandlers δ) (vsi : Vsi22) (ouiStrData : List (Vdp22OuiData δ)) :
    OuiWritten hs vsi ouiStrData ↔
      payloadSize hs vsi ouiStrData < 2 ^ 16 ∧ NoneBetween hs vsi ouiStrData := by
  constructor
  · intro h
    have hlen := vdp22stProcessBuf_length h.buf
    rw [payload_length] at hlen
    have hlt : payloadSize hs vsi ouiStrData < 2 ^ 16 := by omega
    exact ⟨hlt, (vdp22stProcessBuf_iff hlt).mp h.buf⟩
  · rintro ⟨hlt, hnone⟩
    refine ⟨(vdp22stProcessBuf_iff hlt).mpr hnone, ?_⟩
    rw [vdp22stProcessLen_toNat, payload_length, Nat.mod_eq_of_lt hlt]

/-! ### Changing -/

/-- The entries of a request for which the VSI has an entry -/
def counterparts (p vsip : List (Vdp22OuiData δ)) : List (Vdp22OuiData δ) :=
  vsip.filter fun from' => p.any fun to' => to'.ouiName == from'.ouiName

/-- The entries of a VSI behind the handler's call for `from'` -/
def ouiApply (hs : OuiHandlers δ) (p : List (Vdp22OuiData δ)) (from' : Vdp22OuiData δ) :
    List (Vdp22OuiData δ) :=
  match ouiModFirst hs from' p with
  | some (.ok q) => q
  | _ => p

/-- Every entry of the request for which there is one is handed to its handler. -/
def OuiModified (hs : OuiHandlers δ) (p vsip : List (Vdp22OuiData δ)) : Prop :=
  vdp22Modoui hs p vsip =
    .ok ((counterparts p vsip).foldl (ouiApply hs) p, counterparts p vsip)

variable {from' : Vdp22OuiData δ}

theorem counterparts_cons_of_none {p rest : List (Vdp22OuiData δ)}
    (h : (p.any fun to' => to'.ouiName == from'.ouiName) = false) :
    counterparts p (from' :: rest) = counterparts p rest := by
  rw [counterparts, List.filter_cons, h]
  rfl

theorem counterparts_cons_of_some {p rest : List (Vdp22OuiData δ)}
    (h : (p.any fun to' => to'.ouiName == from'.ouiName) = true) :
    counterparts p (from' :: rest) = from' :: counterparts p rest := by
  rw [counterparts, List.filter_cons, h]
  rfl

theorem ouiModFirst_none {hs : OuiHandlers δ}
    {p : List (Vdp22OuiData δ)} (h : (p.any fun to' => to'.ouiName == from'.ouiName) = false) :
    ouiModFirst hs from' p = none := by
  induction p with
  | nil => rfl
  | cons to' p ih =>
    rw [List.any_cons, Bool.or_eq_false_iff, beq_eq_false_iff_ne] at h
    rw [ouiModFirst, if_neg h.1, ih h.2]
    rfl

theorem ouiModFirst_some (hs : OuiHandlers δ)
    {p : List (Vdp22OuiData δ)} (h : (p.any fun to' => to'.ouiName == from'.ouiName) = true) :
    (∃ q, ouiModFirst hs from' p = some (.ok q) ∧ (hs from'.ouiName).isSome) ∨
      ∃ e, ouiModFirst hs from' p = some (.error e) ∧ hs from'.ouiName = none := by
  induction p with
  | nil => cases h
  | cons to' p ih =>
    by_cases hname : to'.ouiName = from'.ouiName
    · rw [ouiModFirst, if_pos hname, hname]
      cases hs from'.ouiName with
      | none => exact .inr ⟨_, rfl, rfl⟩
      | some ouiHndlr => exact .inl ⟨_, rfl, rfl⟩
    · rw [List.any_cons, beq_eq_false_iff_ne.mpr hname, Bool.false_or] at h
      rw [ouiModFirst, if_neg hname]
      rcases ih h with ⟨q, hq, hsome⟩ | ⟨e, he, hnone⟩
      · exact .inl ⟨_, by rw [hq]; rfl, hsome⟩
      · exact .inr ⟨_, by rw [he]; rfl, hnone⟩

/-- Every entry of the request is handed to its handler exactly when there is no second one with
a counterpart, and the first one has a handler. -/
theorem modoui_iff (hs : OuiHandlers δ) (p vsip : List (Vdp22OuiData δ)) :
    OuiModified hs p vsip ↔ (counterparts p vsip).length ≤ 1 ∧
      ∀ from' ∈ counterparts p vsip, (hs from'.ouiName).isSome := by
  unfold OuiModified
  induction vsip with
  | nil => exact iff_of_true rfl ⟨Nat.zero_le _, nofun⟩
  | cons from' rest ih =>
    cases hany : p.any fun to' => to'.ouiName == from'.ouiName with
    | false =>
      rw [counterparts_cons_of_none hany, vdp22Modoui, ouiModFirst_none hany]
      exact ih
    | true =>
      rw [counterparts_cons_of_some hany, vdp22Modoui, List.foldl_cons, ouiApply, List.length_cons,
        List.forall_mem_cons]
      rcases ouiModFirst_some hs hany with ⟨q, hq, hsome⟩ | ⟨e, he, hnone⟩
      · rw [hq]
        simp only [bind_ok, pure_eq_ok, Except.ok.injEq, Prod.mk.injEq, List.cons.injEq, true_and]
        constructor
        · rintro ⟨-, hrest⟩
          rw [← hrest]
          exact ⟨Nat.le_refl _, hsome, nofun⟩
        · rintro ⟨hle, -⟩
          have hrest : counterparts p rest = [] := List.length_eq_zero_iff.mp (by omega)
          rw [hrest]
          exact ⟨rfl, rfl⟩
      · rw [he, hnone]
        simp

/-! ### Both -/

/-- **The OUI data.** For every VSI, its entries and those of a request: the payload is the one
that the handlers announced, and the request changes every entry it has a counterpart for,
exactly when the length fits, no entry whose handler answers with its position stands between
two others, and the request has one counterpart at most. -/
theorem ouiData_iff (hs : OuiHandlers δ) (vsi : Vsi22) (p vsip : List (Vdp22OuiData δ)) :
    OuiWritten hs vsi p ∧ OuiModified hs p vsip ↔
      (payloadSize hs vsi p < 2 ^ 16 ∧ NoneBetween hs vsi p) ∧
        (counterparts p vsip).length ≤ 1 ∧
          ∀ from' ∈ counterparts p vsip, (hs from'.ouiName).isSome :=
  and_congr (payload_iff hs vsi p) (modoui_iff hs p vsip)

/-- An entry with a name of one byte -/
def namedOui (c : UInt8) : Vdp22OuiData VdpCiscoOui :=
  { ouiName := ciscoOuiName, data := { vmName := [c] } }

/-- A VSI for one VLAN -/
def ouiVsi : Vsi22 := { vsiMode := vdp22Assoc, fif := vdp22FfmtVid, fdata := [{ vlan := 5 }] }

/-- The third entry is written behind the end of the message, and the second entry of a request
is not looked at. -/
theorem third_entry_outside :
    vdp22stProcessBuf ouiHandlers ouiVsi [namedOui 97, namedOui 98, namedOui 99] =
        .error .outOfBounds ∧
      ¬ OuiWritten ouiHandlers ouiVsi [namedOui 97, namedOui 98, namedOui 99] ∧
      ¬ OuiModified ouiHandlers [namedOui 97, namedOui 98] [namedOui 99, namedOui 100] := by
  have houtside : vdp22stProcessBuf ouiHandlers ouiVsi [namedOui 97, namedOui 98, namedOui 99] =
      .error .outOfBounds := by decide +kernel
  refine ⟨houtside, fun h => ?_, fun h => ?_⟩
  · have hbuf := h.buf
    rw [houtside] at hbuf
    cases hbuf
  · have hlen := ((modoui_iff _ _ _).mp h).1
    revert hlen
    decide

end Lldpad.Qbg
