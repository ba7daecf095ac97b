import Lldpad.Proofs.Clif.Args
import Lldpad.Qbg.VdpPrint

/-!
# `Lldpad.Proofs.Qbg.PrintedText`: what is read of a printed VSI

`vdp_vdpnl2str` prints a VSI with the same keys that `vdp22_parse_str_vdpnl` reads, and under
`hints` it prints the response of the bridge as a number. The reader of `hints` takes words only,
so that no printed text is read back (`parse_refused`).

`printed_cases` says what is printed: nothing that counts when a part does not fit that the text
cannot do without (`NoRoom`), and otherwise a text that has the hints in it.
-/

namespace Lldpad.Qbg

open Lldpad.Lib
open Lldpad.Clif (LenStack argValText countArgs getArgValList_begins valEntries)

variable {δ : Type}

/-! ### Printed arguments -/

theorem printArgs_eq (args : List (CStr × CStr)) : printArgs args = argValText args := by
  unfold printArgs argValText keyText valueText
  simp only [List.append_assoc]

/-- All that is printed before the filters -/
def fixedArgs (p : VdpnlVsi) : List (CStr × CStr) := headArgs p ++ idArgs p

theorem printArgs_fixed (p : VdpnlVsi) :
    printArgs (headArgs p) ++ printArgs (idArgs p) = argValText (fixedArgs p) := by
  rw [← printArgs_eq]
  exact List.flatMap_append.symm

theorem length_toDigits_le {n k : Nat} (h : n < 10 ^ (k + 1)) :
    (Nat.toDigits 10 n).length ≤ k + 1 :=
  (Nat.length_toDigits_le_iff (by decide) (Nat.succ_pos k)).mpr h

theorem length_hexBytes (bytes : List UInt8) : (hexBytes bytes).length = 2 * bytes.length := by
  induction bytes with
  | nil => rfl
  | cons b bytes ih =>
    have hb : (hexField 2 b.toNat).length = 2 := length_hexField (by decide) b.toNat_lt
    unfold hexBytes at ih ⊢
    rw [List.flatMap_cons, List.length_append, hb, ih, List.length_cons]
    omega

theorem length_mgrid2str_le (p : VdpnlVsi) : (mgrid2str p).length ≤ 16 := by
  unfold mgrid2str
  split_ifs
  · unfold fieldText
    rw [List.length_map]
    have hlen := p.vsiMgrid2.length_eq
    have hle := (List.takeWhile_prefix (l := p.vsiMgrid2.bytes) fun b => decide (b ≠ 0)).length_le
    omega
  · have hlt := (p.vsiMgrid2.bytes.getD 0 0).toNat_lt
    have hle := length_toDigits_le (n := (p.vsiMgrid2.bytes.getD 0 0).toNat) (k := 2) (by omega)
    omega

theorem length_vdpUuid2str_le (u : Octets 16) : (vdpUuid2str u).length ≤ 196 := by
  unfold vdpUuid2str
  simp only [List.length_append, List.length_cons, length_hexBytes, List.length_take,
    List.length_drop]
  omega

theorem fixedArgs_fit (p : VdpnlVsi) :
    ∀ a ∈ fixedArgs p, a.1.length < 256 ∧ a.2.length < 65536 := by
  have hmode : (mode2str p.request).length < 65536 := by
    unfold mode2str
    split_ifs <;> decide
  have hmgrid := length_mgrid2str_le p
  have huuid := length_vdpUuid2str_le p.vsiUuid
  have htypeid := length_toDigits_le (n := p.vsiTypeid.toNat) (k := 19) (by
    have := p.vsiTypeid.toNat_lt
    omega)
  have hver := length_toDigits_le (n := p.vsiTypeversion.toNat) (k := 2) (by
    have := p.vsiTypeversion.toNat_lt
    omega)
  have hresponse := length_toDigits_le (n := p.response.toNat) (k := 4) (by
    have := p.response.toNat_lt
    omega)
  simp only [fixedArgs, headArgs, idArgs, List.cons_append, List.nil_append, List.mem_cons,
    List.not_mem_nil, or_false, forall_eq_or_imp, forall_eq]
  exact ⟨⟨by decide, hmode⟩, ⟨by decide, by omega⟩, ⟨by decide, by omega⟩, ⟨by decide, by omega⟩,
    ⟨by decide, by omega⟩, by decide, by omega⟩

/-! ### Reading them -/

theorem toLower_digit {c : Char} (h : c.isDigit = true) : c.toLower = c := by
  simp only [Char.isDigit, Bool.and_eq_true, decide_eq_true_eq] at h
  unfold Char.toLower
  grind

theorem gethints_number (p : VdpnlVsi) (n : Nat) : gethints p (Nat.toDigits 10 n) = none := by
  obtain ⟨c, s, hs, hdigit, -⟩ := exists_toDigits n
  have hword {word : String} {d : Char} {t : CStr} (hw : word.toList = d :: t)
      (hd : d.isDigit = false) : isWord word (c :: s) = false := by
    unfold isWord
    rw [hw, List.map_cons]
    refine decide_eq_false fun h => ?_
    rw [← (List.cons.inj h).1, toLower_digit hdigit] at hd
    exact Bool.noConfusion (hdigit.symm.trans hd)
  unfold gethints
  rw [hs, hword (d := 't') rfl rfl, hword (d := 'f') rfl rfl, hword (d := 'n') rfl rfl,
    hword (d := '-') rfl rfl]
  rfl

theorem parseArg_hints (readers : OuiReaders δ) (stale : UInt8) (n : Nat) (s : VsiText δ) :
    parseArg readers stale s ("hints".toList, Nat.toDigits 10 n) = .ok none := by
  have hkey : getKeyworkVal "hints".toList = .hints := by decide
  unfold parseArg
  rw [hkey]
  unfold parseValue
  rw [gethints_number]
  rfl

theorem parse_refused (readers : OuiReaders δ) (stale : UInt8) (stack : LenStack) (p : VdpnlVsi)
    (rest : CStr) (vsi s : VsiText δ) :
    str2vdpnl readers stale stack vsi (argValText (fixedArgs p) ++ rest) ≠ .ok (0, s) := by
  intro h
  obtain ⟨⟨rc, t⟩, hparse, hanswer⟩ := bind_eq_ok.mp h
  have hrc : rc = 0 := by
    dsimp only at hanswer
    split_ifs at hanswer with hne
    · exact congrArg Prod.fst (Except.ok.inj hanswer)
    · exact not_not.mp hne
    · exact not_not.mp hne
  subst hrc
  unfold vdp22ParseStrVdpnl at hparse
  dsimp only at hparse
  by_cases hcount : countArgs (argValText (fixedArgs p) ++ rest).length = 0
  · rw [if_pos hcount] at hparse
    cases hparse
  rw [if_neg hcount] at hparse
  obtain ⟨args, hargs, hparse⟩ := bind_eq_ok.mp hparse
  by_cases hnil : args = []
  · rw [if_pos hnil] at hparse
    cases hparse
  rw [if_neg hnil] at hparse
  obtain ⟨r, hr, hparse⟩ := bind_eq_ok.mp hparse
  cases r with
  | none => cases hparse
  | some u =>
    -- The list of arguments begins with the printed ones, and the hints are among these.
    obtain ⟨behind, rfl⟩ := (getArgValList_begins (fixedArgs_fit p) hargs).resolve_left hnil
    have hhints : ("hints".toList, Nat.toDigits 10 p.response.toNat) ∈
        (valEntries (fixedArgs p) ++ behind).filterMap fun a =>
          a.arg.bind fun key => a.value.map fun value => (key, value) := by
      refine List.mem_filterMap.mpr ⟨⟨some "hints".toList, some (Nat.toDigits 10 p.response.toNat)⟩,
        List.mem_append_left _ ?_, rfl⟩
      simp [valEntries, fixedArgs, idArgs]
    refine checkAll_refused hhints (fun s t hst => ?_) vsi u hr
    rw [parseArg_hints] at hst
    cases hst

/-! ### Printing them -/

theorem putPart_of_fits {b : TextBuf} {text : CStr} (h : text.length < b.room) :
    putPart b text = .ok (b.add text) := by
  unfold putPart snprintf
  rw [if_pos h]

theorem putPart_of_not_fits {b : TextBuf} {text : CStr} (h : ¬text.length < b.room) :
    putPart b text = .error (0, b.done ++ text.take (b.room - 1)) := by
  unfold putPart snprintf
  rw [if_neg h]

/-- A filter as it is printed -/
def fidWhole (fif : UInt8) (m : VdpnlMac) : CStr :=
  keyText "filter".toList ++ valueText (fidValue fif m)

theorem fid2str_of_fits {room : Nat} {fif : UInt8} {m : VdpnlMac}
    (h : (fidWhole fif m).length < room) : fid2str room fif m = .ok (fidWhole fif m) := by
  unfold fidWhole at h
  rw [List.length_append] at h
  unfold fid2str snprintf
  rw [if_pos (by omega)]
  simp only [bind, Except.bind]
  rw [if_pos (by omega)]
  rfl

theorem fid2str_of_not_fits {room : Nat} {fif : UInt8} {m : VdpnlMac}
    (h : ¬(fidWhole fif m).length < room) : ∃ rest, fid2str room fif m = .error rest := by
  unfold fidWhole at h
  rw [List.length_append] at h
  unfold fid2str snprintf
  by_cases hkey : (keyText "filter".toList).length < room
  · rw [if_pos hkey]
    simp only [bind, Except.bind]
    rw [if_neg (by omega)]
    exact ⟨_, rfl⟩
  · rw [if_neg hkey]
    exact ⟨_, rfl⟩

/-- All filters as they are printed -/
def fidsWhole (fif : UInt8) (ms : List VdpnlMac) : CStr := ms.flatMap (fidWhole fif)

theorem putFids_spec (fif : UInt8) (ms : List VdpnlMac) (b : TextBuf) (hroom : 0 < b.room) :
    ((fidsWhole fif ms).length < b.room →
      ms.foldlM (putFid fif) b = .ok (b.add (fidsWhole fif ms))) ∧
    (¬(fidsWhole fif ms).length < b.room → ∃ n rest,
      ms.foldlM (putFid fif) b = .error (n, b.done ++ rest) ∧ b.done.length ≤ n) := by
  induction ms generalizing b with
  | nil =>
    refine ⟨fun _ => ?_, fun h => absurd hroom h⟩
    simp [fidsWhole, TextBuf.add]
    rfl
  | cons m ms ih =>
    have hcons : fidsWhole fif (m :: ms) = fidWhole fif m ++ fidsWhole fif ms := List.flatMap_cons
    rw [hcons, List.length_append, List.foldlM_cons]
    unfold putFid
    by_cases hm : (fidWhole fif m).length < b.room
    · rw [fid2str_of_fits hm]
      have hadd : (b.add (fidWhole fif m)).room = b.room - (fidWhole fif m).length := rfl
      obtain ⟨hfits, hnot⟩ := ih (b.add (fidWhole fif m)) (by omega)
      constructor
      · intro h
        refine (hfits (by omega)).trans ?_
        simp [TextBuf.add, Nat.sub_sub]
      · intro h
        obtain ⟨n, rest, hrun, hn⟩ := hnot (by omega)
        refine ⟨n, fidWhole fif m ++ rest, hrun.trans ?_, ?_⟩
        · simp [TextBuf.add]
        · simp only [TextBuf.add, List.length_append] at hn
          omega
    · obtain ⟨rest, hrest⟩ := fid2str_of_not_fits hm
      rw [hrest]
      exact ⟨fun h => absurd h (by omega), fun _ => ⟨_, rest, rfl, Nat.le_refl _⟩⟩

/-- The room ends within the key of an OUI entry, behind entries that are printed whole. -/
def KeyCut (printers : OuiPrinters δ) : Nat → List (VdpnlOuiData δ) → Prop
  | _, [] => False
  | room, d :: ds =>
    match printers d.ouiName with
    | none => KeyCut printers room ds
    | some ouiHndlr =>
      let key := keyText "oui".toList
      room ≤ key.length ∨ ∃ text, ouiHndlr.vdpnl2strHndlr d (room - key.length) = .ok text ∧
        KeyCut printers (room - key.length - text.length) ds

/-- The OUI entries are printed, or the answer is zero just when the room ends within a key. -/
theorem putOuis_spec (printers : OuiPrinters δ) (ds : List (VdpnlOuiData δ)) (b : TextBuf)
    (hdone : b.done ≠ []) :
    ((∃ more room, ds.foldlM (putOui printers) b = .ok { done := b.done ++ more, room }) ∧
        ¬KeyCut printers b.room ds) ∨
      ∃ n rest, ds.foldlM (putOui printers) b = .error (n, b.done ++ rest) ∧
        (n = 0 ↔ KeyCut printers b.room ds) := by
  induction ds generalizing b with
  | nil => exact .inl ⟨⟨[], b.room, by rw [List.append_nil]; rfl⟩, id⟩
  | cons d ds ih =>
    rw [List.foldlM_cons]
    unfold putOui KeyCut
    cases printers d.ouiName with
    | none => exact ih b hdone
    | some ouiHndlr =>
      by_cases hkey : (keyText "oui".toList).length < b.room
      · have hroom : (b.add (keyText "oui".toList)).room =
            b.room - (keyText "oui".toList).length := rfl
        rw [putPart_of_fits hkey]
        simp only [bind, Except.bind]
        rw [hroom]
        cases htext : ouiHndlr.vdpnl2strHndlr d (b.room - (keyText "oui".toList).length) with
        | error rest =>
          -- The key counts, so that the answer is not zero.
          refine .inr ⟨_, keyText "oui".toList ++ rest, by simp [TextBuf.add]; rfl, ?_⟩
          refine iff_of_false ?_ ?_
          · simp [hdone]
          · rintro (hle | ⟨text, htext', -⟩)
            · omega
            · cases htext'
        | ok text =>
          have hnext := ih ((b.add (keyText "oui".toList)).add text) (by simp [TextBuf.add, hdone])
          have hcut : KeyCut printers ((b.add (keyText "oui".toList)).add text).room ds ↔
              b.room ≤ (keyText "oui".toList).length ∨ ∃ text',
                (.ok text : Except CStr CStr) = .ok text' ∧
                  KeyCut printers (b.room - (keyText "oui".toList).length - text'.length) ds := by
            constructor
            · exact fun h => .inr ⟨text, rfl, h⟩
            · rintro (hle | ⟨text', htext', h⟩)
              · omega
              · cases htext'
                exact h
          rw [← hcut]
          rcases hnext with ⟨⟨more, room, hrun⟩, hnot⟩ | ⟨n, rest, hrun, hn⟩
          · refine .inl ⟨⟨keyText "oui".toList ++ text ++ more, room, hrun.trans ?_⟩, hnot⟩
            simp [TextBuf.add]
          · refine .inr ⟨n, keyText "oui".toList ++ text ++ rest, hrun.trans ?_, hn⟩
            simp [TextBuf.add]
      · rw [putPart_of_not_fits hkey]
        exact .inr ⟨0, _, rfl, iff_of_true rfl (.inl (by omega))⟩

/-! ### The whole text -/

/-- There is no room for a part that the text cannot do without: what comes before the filters, or
the key of an OUI entry. -/
def NoRoom (printers : OuiPrinters δ) (p : VdpnlVsi) (ouiList : List (VdpnlOuiData δ))
    (length : Nat) : Prop :=
  let fixed := (argValText (fixedArgs p)).length
  let fids := (fidsWhole p.filterFmt p.maclist).length
  length ≤ fixed ∨ (fixed + fids < length ∧ KeyCut printers (length - fixed - fids) ouiList)

theorem fixedText_ne_nil (p : VdpnlVsi) : argValText (fixedArgs p) ≠ [] := by
  rw [← printArgs_fixed]
  intro h
  have hkey : keyText "mode".toList = [] :=
    (List.append_eq_nil_iff.mp (List.append_eq_nil_iff.mp (List.append_eq_nil_iff.mp h).1).1).1
  exact absurd hkey (by decide)

/-- The filters and the OUI entries behind what is complete: the answer is zero just when the room
ends within the key of an OUI entry. -/
theorem putLists_spec (printers : OuiPrinters δ) (fif : UInt8) (ms : List VdpnlMac)
    (ds : List (VdpnlOuiData δ)) (b : TextBuf) (hdone : b.done ≠ []) (hroom : 0 < b.room) :
    ((∃ more room, (ms.foldlM (putFid fif) b >>= ds.foldlM (putOui printers)) =
        .ok { done := b.done ++ more, room }) ∧
      ¬((fidsWhole fif ms).length < b.room ∧
        KeyCut printers (b.room - (fidsWhole fif ms).length) ds)) ∨
    ∃ n rest, (ms.foldlM (putFid fif) b >>= ds.foldlM (putOui printers)) =
        .error (n, b.done ++ rest) ∧
      (n = 0 ↔ (fidsWhole fif ms).length < b.room ∧
        KeyCut printers (b.room - (fidsWhole fif ms).length) ds) := by
  obtain ⟨hfit, hnot⟩ := putFids_spec fif ms b hroom
  by_cases hfids : (fidsWhole fif ms).length < b.room
  · have hnext := putOuis_spec printers ds (b.add (fidsWhole fif ms)) (by simp [TextBuf.add, hdone])
    rw [hfit hfids]
    have hleft : (b.add (fidsWhole fif ms)).room = b.room - (fidsWhole fif ms).length := rfl
    rw [hleft] at hnext
    rcases hnext with ⟨⟨more, room, hrun⟩, hcut⟩ | ⟨n, rest, hrun, hn⟩
    · refine .inl ⟨⟨fidsWhole fif ms ++ more, room, hrun.trans ?_⟩, fun h => hcut h.2⟩
      simp [TextBuf.add]
    · refine .inr ⟨n, fidsWhole fif ms ++ rest, hrun.trans ?_, by simp [hn, hfids]⟩
      simp [TextBuf.add]
  · obtain ⟨n, rest, hrun, hn⟩ := hnot hfids
    rw [hrun]
    have hpos := List.length_pos_iff.mpr hdone
    exact .inr ⟨n, rest, rfl, iff_of_false (by omega) fun h => hfids h.1⟩

theorem noRoom_iff {length fixed fids : Nat} {cut : Prop} (h : fixed < length) :
    (length ≤ fixed ∨ (fixed + fids < length ∧ cut)) ↔ (fids < length - fixed ∧ cut) := by
  constructor
  · rintro (hle | ⟨hlt, hcut⟩)
    · omega
    · exact ⟨by omega, hcut⟩
  · rintro ⟨hlt, hcut⟩
    exact .inr ⟨by omega, hcut⟩

/-- The answer is zero where there is no room, and otherwise the text begins with all that comes
before the filters. -/
theorem printed_cases (printers : OuiPrinters δ) (p : VdpnlVsi)
    (ouiList : List (VdpnlOuiData δ)) (length : Nat) :
    ((vdpVdpnl2str printers p ouiList length).1 = 0 ↔ NoRoom printers p ouiList length) ∧
      ((vdpVdpnl2str printers p ouiList length).1 ≠ 0 →
        ∃ rest, (vdpVdpnl2str printers p ouiList length).2 = argValText (fixedArgs p) ++ rest) := by
  have hne := fixedText_ne_nil p
  unfold NoRoom vdpVdpnl2str
  rw [← printArgs_fixed] at hne ⊢
  generalize printArgs (headArgs p) = head at hne ⊢
  generalize printArgs (idArgs p) = ids at hne ⊢
  have hlen : (head ++ ids).length = head.length + ids.length := List.length_append
  by_cases hhead : head.length < length
  swap
  · rw [putPart_of_not_fits hhead]
    exact ⟨iff_of_true rfl (.inl (by omega)), fun h => absurd rfl h⟩
  rw [putPart_of_fits hhead, bind_ok]
  by_cases hids : ids.length < length - head.length
  swap
  · rw [putPart_of_not_fits hids]
    exact ⟨iff_of_true rfl (.inl (by omega)), fun h => absurd rfl h⟩
  rw [putPart_of_fits hids, bind_ok]
  -- All that comes before the filters is complete.
  have hfixed : (head ++ ids).length < length := by omega
  have hroom : length - head.length - ids.length = length - (head ++ ids).length := by omega
  have hstart : (({ done := [], room := length } : TextBuf).add head).add ids =
      { done := head ++ ids, room := length - (head ++ ids).length } := by
    simp only [TextBuf.add, List.nil_append, hroom]
  rw [noRoom_iff hfixed, hstart]
  have hpos : 0 < length - (head ++ ids).length := Nat.sub_pos_of_lt hfixed
  rcases putLists_spec printers p.filterFmt p.maclist ouiList
    { done := head ++ ids, room := length - (head ++ ids).length } hne hpos with
    ⟨⟨more, room, hrun⟩, hcut⟩ | ⟨n, rest, hrun, hn⟩
  · rw [hrun]
    have hdone : (head ++ ids ++ more).length ≠ 0 := by
      have := List.length_pos_iff.mpr hne
      rw [List.length_append]
      omega
    exact ⟨iff_of_false hdone hcut, fun _ => ⟨more, rfl⟩⟩
  · rw [hrun]
    exact ⟨hn, fun _ => ⟨rest, rfl⟩⟩

end Lldpad.Qbg
