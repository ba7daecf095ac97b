import Lldpad.Proofs.Qbg.CiscoText

/-!
# `Lldpad.Proofs.Qbg.PrintedBack`: a printed VSI as a request

`vdp_vdpnl2str` should use the format of the input, but under `hints` it prints the response of the
bridge. So no printed text is accepted (`parse_refused`), and a VSI makes the round trip only where
the buffer is said to be too small (`textRoundTrips_iff`). With a hint of the input in that place
the text is read back as the VSI that was printed (`read_printed`), as far as the VSI has values
that can be an input (`VsiPrints`) and the handlers of its OUI data agree (`OuiPrints`).

* `printed_whole`: with room for all, all is printed.
* `values_taken`, `fids_taken`, `ouis_taken`: what the loop of the parser holds after the values,
  after each filter and after each OUI entry (`ReadSoFar`).
* `ouiPrints_cisco`: the handlers of Cisco agree, for data that are printed as they are read.
* `keyCut_cisco`: where the buffer ends within the key of an entry, in lengths of what is printed.
-/

namespace Lldpad.Qbg

open Lldpad.Lib
open Lldpad.Clif (LenStack argValText argValSize countArgs le_countArgs)

variable {δ : Type}

/-! ### What is printed -/

/-- The arguments of the filters -/
def fidArgs (fif : UInt8) (ms : List VdpnlMac) : List (CStr × CStr) :=
  ms.map fun m => ("filter".toList, fidValue fif m)

/-- The arguments of the OUI entries, where `body` is what stands behind the name -/
def ouiArgs (body : VdpnlOuiData δ → CStr) (ds : List (VdpnlOuiData δ)) : List (CStr × CStr) :=
  ds.map fun d => ("oui".toList, keyText d.ouiName ++ body d)

/-- The handlers of OUI data agree: this text is printed wherever it fits, and read back. -/
structure OuiPrints (printers : OuiPrinters δ) (readers : OuiReaders δ) (d : VdpnlOuiData δ)
    (body : CStr) : Prop where
  name : d.ouiName.length < vdp22OuiMaxName
  short : (keyText d.ouiName ++ body).length < 65536
  printed : ∃ ouiHndlr, printers d.ouiName = some ouiHndlr ∧
    ∀ room, (valueText (keyText d.ouiName ++ body)).length < room →
      ouiHndlr.vdpnl2strHndlr d room = .ok (valueText (keyText d.ouiName ++ body))
  read : ∃ reader data, readers d.ouiName = some (some reader) ∧ reader body = some data ∧
    d.data = some data

/-- All that is printed -/
def printedArgs (body : VdpnlOuiData δ → CStr) (p : VdpnlVsi) (ds : List (VdpnlOuiData δ)) :
    List (CStr × CStr) := fixedArgs p ++ fidArgs p.filterFmt p.maclist ++ ouiArgs body ds

theorem TextBuf.add_add (b : TextBuf) (s t : CStr) : (b.add s).add t = b.add (s ++ t) := by
  simp [TextBuf.add, Nat.sub_sub]

variable {printers : OuiPrinters δ} {readers : OuiReaders δ} {body : VdpnlOuiData δ → CStr}

theorem putOui_of_fits {d : VdpnlOuiData δ} (h : OuiPrints printers readers d (body d))
    {b : TextBuf} (hfits : (argValText (ouiArgs body [d])).length < b.room) :
    putOui printers b d = .ok (b.add (argValText (ouiArgs body [d]))) := by
  obtain ⟨ouiHndlr, hhndlr, hprinted⟩ := h.printed
  have htext : argValText (ouiArgs body [d]) =
      keyText "oui".toList ++ valueText (keyText d.ouiName ++ body d) := by
    rw [← printArgs_eq]
    simp [printArgs, ouiArgs]
  rw [htext, List.length_append] at hfits
  have hroom : (b.add (keyText "oui".toList)).room = b.room - (keyText "oui".toList).length := rfl
  unfold putOui
  rw [hhndlr]
  dsimp only
  rw [putPart_of_fits (by omega), bind_ok, hprinted _ (by omega), htext, ← TextBuf.add_add]

variable {ds : List (VdpnlOuiData δ)} {p : VdpnlVsi}

theorem putOuis_of_fit (h : ∀ d ∈ ds, OuiPrints printers readers d (body d)) (b : TextBuf)
    (hfits : (argValText (ouiArgs body ds)).length < b.room) :
    ds.foldlM (putOui printers) b = .ok (b.add (argValText (ouiArgs body ds))) := by
  induction ds generalizing b with
  | nil =>
    show Except.ok b = .ok (b.add [])
    simp [TextBuf.add]
  | cons d ds ih =>
    have hcons : argValText (ouiArgs body (d :: ds)) =
        argValText (ouiArgs body [d]) ++ argValText (ouiArgs body ds) := by
      simp only [← printArgs_eq]
      simp [printArgs, ouiArgs]
    rw [hcons, List.length_append] at hfits
    have hroom : (b.add (argValText (ouiArgs body [d]))).room =
        b.room - (argValText (ouiArgs body [d])).length := rfl
    rw [List.foldlM_cons, putOui_of_fits (h d List.mem_cons_self) (by omega), bind_ok,
      ih (fun e he => h e (List.mem_cons_of_mem d he)) _ (by omega), TextBuf.add_add, hcons]

theorem printed_whole {length : Nat} (h : ∀ d ∈ ds, OuiPrints printers readers d (body d))
    (hfits : (argValText (printedArgs body p ds)).length < length) :
    vdpVdpnl2str printers p ds length =
      ((argValText (printedArgs body p ds)).length, argValText (printedArgs body p ds)) := by
  have hfids : fidsWhole p.filterFmt p.maclist = argValText (fidArgs p.filterFmt p.maclist) := by
    rw [← printArgs_eq]
    unfold fidsWhole fidWhole printArgs fidArgs
    rw [List.flatMap_map]
  have htext : argValText (printedArgs body p ds) =
      printArgs (headArgs p) ++ printArgs (idArgs p) ++
      fidsWhole p.filterFmt p.maclist ++ argValText (ouiArgs body ds) := by
    rw [hfids, printArgs_fixed]
    simp only [← printArgs_eq]
    simp only [printArgs, printedArgs, List.flatMap_append]
  rw [htext] at hfits ⊢
  simp only [List.length_append] at hfits
  unfold vdpVdpnl2str
  generalize printArgs (headArgs p) = head at hfits ⊢
  generalize printArgs (idArgs p) = ids at hfits ⊢
  generalize hfidsText : fidsWhole p.filterFmt p.maclist = fids at hfits ⊢
  have hadd (b : TextBuf) (s : CStr) : (b.add s).room = b.room - s.length := rfl
  rw [putPart_of_fits (by dsimp only; omega), bind_ok,
    putPart_of_fits (by rw [hadd]; dsimp only; omega), bind_ok, TextBuf.add_add]
  have hput := (putFids_spec p.filterFmt p.maclist
    (TextBuf.add { done := [], room := length } (head ++ ids))
    (by rw [hadd, List.length_append]; dsimp only; omega)).1
    (by rw [hfidsText, hadd, List.length_append]; dsimp only; omega)
  rw [hput, bind_ok, hfidsText, TextBuf.add_add, putOuis_of_fit h _ (by
    rw [hadd, List.length_append, List.length_append]; dsimp only; omega), TextBuf.add_add]
  rfl

/-! ### What is read -/

/-- A request and a VSI with the same values apart from the lists -/
structure SameValues (q p : VdpnlVsi) : Prop where
  request : q.request = p.request
  vsiMgrid2 : q.vsiMgrid2 = p.vsiMgrid2
  vsiTypeid : q.vsiTypeid = p.vsiTypeid
  vsiTypeversion : q.vsiTypeversion = p.vsiTypeversion
  vsiUuid : q.vsiUuid = p.vsiUuid

/-- The VSIs whose values are printed as they are read -/
structure VsiPrints (p : VdpnlVsi) : Prop where
  mode : isMode p.request
  mgrid : MgridPrints p.vsiMgrid2
  typeid : p.vsiTypeid.toNat ≤ 0xffffff
  fids : ∀ m ∈ p.maclist, FidPrints p.filterFmt m
  macs : p.maclist.Pairwise fun m n => p.filterFmt = vdp22FfmtVid ∨ m.mac ≠ n.mac
  empty : p.maclist = [] → p.filterFmt = 0

variable {stale : UInt8} {size ouiSize : Nat}

theorem checkAll_cons {σ α : Type} {step : σ → α → Except Fault (Option σ)} {s t : σ} {a : α}
    (h : step s a = .ok (some t)) (post : List α) :
    checkAll step s (a :: post) = checkAll step t post := by
  rw [checkAll, h, bind_ok]

theorem parseArg_stores {s t : VsiText δ} {key value : CStr} {k : VsiKeyArg}
    (hkey : getKeyworkVal key = k) (h : parseValue readers stale s k value = .ok (some t)) :
    parseArg readers stale s (key, value) =
      .ok (some { t with numArgKeys := t.numArgKeys ||| 2 ^ k.num }) := by
  subst hkey
  exact parseArg_eq (a := (key, value)) h

theorem gethints_hint {hint : CStr} (h : hintsText hint) :
    ∃ hints, ∀ p : VdpnlVsi, gethints p hint = some { p with hints } := by
  unfold gethints
  unfold hintsText at h
  split_ifs with hto hfrom hnone
  · exact ⟨_, fun _ => rfl⟩
  · exact ⟨_, fun _ => rfl⟩
  · exact ⟨_, fun _ => rfl⟩
  · exact absurd h (by simp [hto, hfrom, not_or.mp hnone])

variable (readers stale size ouiSize) in
/-- The variables of the loop behind the arguments that stand before the filters -/
theorem values_taken (h : VsiPrints p) {hint : CStr} (hhint : hintsText hint)
    (post : List (CStr × CStr)) :
    ∃ t, checkAll (parseArg readers stale) (VsiText.zero δ size ouiSize)
        ((headArgs p ++ [("uuid".toList, vdpUuid2str p.vsiUuid), ("hints".toList, hint)]) ++ post) =
      checkAll (parseArg readers stale) t post ∧ SameValues t.vsi p ∧
        t.vsi.filterFmt = 0 ∧ t.vsi.maclist = List.replicate size {} ∧
        t.ouiList = List.replicate ouiSize {} ∧ t.idx = 0 ∧ t.ouiIdx = 0 := by
  obtain ⟨hints, hhints⟩ := gethints_hint hhint
  have hmode (q : VdpnlVsi) := getmode_mode2str q h.mode
  have hmgrid (q : VdpnlVsi) (hzero : q.vsiMgrid2 = .zero 16) := getmgr2id_printed q hzero h.mgrid
  have htypeid : getnumber (Nat.toDigits 10 p.vsiTypeid.toNat) 0 0xffffff =
      some (UInt32.ofNat p.vsiTypeid.toNat) :=
    getnumber_toDigits (Nat.zero_le _) h.typeid
  have hver : getnumber (Nat.toDigits 10 p.vsiTypeversion.toNat) 0 0xff =
      some (UInt32.ofNat p.vsiTypeversion.toNat) :=
    getnumber_toDigits (Nat.zero_le _) (Nat.le_of_lt_succ p.vsiTypeversion.toNat_lt)
  have huuid (old : Octets 16) := vdpStr2uuid_printed old p.vsiUuid
  unfold headArgs
  simp only [List.cons_append, List.nil_append]
  rw [checkAll_cons (parseArg_stores (k := .mode) (by decide) (by
      unfold parseValue; dsimp only; rw [hmode]; rfl)),
    checkAll_cons (parseArg_stores (k := .mgrid2) (by decide) (by
      unfold parseValue; dsimp only; rw [hmgrid _ rfl]; rfl)),
    checkAll_cons (parseArg_stores (k := .typeid) (by decide) (by
      unfold parseValue; dsimp only; rw [htypeid]; rfl)),
    checkAll_cons (parseArg_stores (k := .typeidver) (by decide) (by
      unfold parseValue; dsimp only; rw [hver]; rfl)),
    checkAll_cons (parseArg_stores (k := .vsiid) (by decide) (by
      unfold parseValue; dsimp only; rw [huuid]; rfl)),
    checkAll_cons (parseArg_stores (k := .hints) (by decide) (by
      unfold parseValue; dsimp only; rw [hhints]; rfl))]
  refine ⟨_, rfl, ⟨rfl, rfl, ?_, ?_, rfl⟩, rfl, rfl, rfl, rfl, rfl⟩
  · have hlt : p.vsiTypeid.toNat < 2 ^ 32 := by
      have := h.typeid
      omega
    refine UInt64.toNat_inj.mp ?_
    show ((UInt32.ofNat p.vsiTypeid.toNat).toUInt64).toNat = p.vsiTypeid.toNat
    rw [UInt32.toNat_toUInt64, UInt32.toNat_ofNat_of_lt' hlt]
  · have hlt : p.vsiTypeversion.toNat < 2 ^ 8 := p.vsiTypeversion.toNat_lt
    refine UInt8.toNat_inj.mp ?_
    show ((UInt32.ofNat p.vsiTypeversion.toNat).toUInt8).toNat = p.vsiTypeversion.toNat
    rw [UInt32.toNat_toUInt8, UInt32.toNat_ofNat_of_lt' (show _ < 2 ^ 32 by omega),
      Nat.mod_eq_of_lt hlt]

/-- What the loop has read, behind these filters and OUI entries -/
structure ReadSoFar (size ouiSize : Nat) (p : VdpnlVsi) (done : List VdpnlMac)
    (ds : List (VdpnlOuiData δ)) (s : VsiText δ) : Prop where
  values : SameValues s.vsi p
  holds : Holds size (done.map (VdpnlMac.fid p.filterFmt)) s.vsi
  idx : s.idx = done.length
  ouiList : s.ouiList = fillFront ouiSize {} ds
  ouiIdx : s.ouiIdx = ds.length

theorem getfid_values {q q' : VdpnlVsi} {value : CStr} {idx : Nat}
    (h : getfid q value idx = some q') (p : VdpnlVsi) (hq : SameValues q p) : SameValues q' p := by
  obtain ⟨f, -, h⟩ := Option.bind_eq_some_iff.mp h
  split_ifs at h
  cases h
  exact ⟨hq.request, hq.vsiMgrid2, hq.vsiTypeid, hq.vsiTypeversion, hq.vsiUuid⟩

theorem fitsIn_printed {fif : UInt8} {done : List VdpnlMac} {m : VdpnlMac} (hm : FidPrints fif m)
    (hdone : ∀ n ∈ done, FidPrints fif n)
    (hmacs : ∀ n ∈ done, fif = vdp22FfmtVid ∨ n.mac ≠ m.mac) :
    FitsIn (m.fid fif) (done.map (VdpnlMac.fid fif)) := by
  have hmac (n : VdpnlMac) :
      (n.fid fif).mac = if fif = vdp22FfmtVid then none else some n.mac := rfl
  refine ⟨?_, fun g hg => ?_⟩
  · rw [hmac]
    split_ifs with hvid
    · nofun
    · exact fun h => hvid (hm.mac.mp (Option.some.inj h))
  · obtain ⟨n, hn, rfl⟩ := List.mem_map.mp hg
    rw [(hdone n hn).fid_fif, hm.fid_fif, hmac, hmac]
    refine ⟨rfl, ?_⟩
    split_ifs with hvid
    · exact .inl rfl
    · exact .inr fun h => ((hmacs n hn).resolve_left hvid) (Option.some.inj h)

variable (readers stale) in
theorem fids_taken (ms : List VdpnlMac) (post : List (CStr × CStr)) :
    ∀ (done : List VdpnlMac) (s : VsiText δ), ReadSoFar size ouiSize p done [] s →
      (done ++ ms).length ≤ size → (∀ m ∈ done ++ ms, FidPrints p.filterFmt m) →
      ((done ++ ms).Pairwise fun m n => p.filterFmt = vdp22FfmtVid ∨ m.mac ≠ n.mac) →
      ∃ t, checkAll (parseArg readers stale) s (fidArgs p.filterFmt ms ++ post) =
          checkAll (parseArg readers stale) t post ∧
              ReadSoFar size ouiSize p (done ++ ms) [] t := by
  induction ms with
  | nil =>
    intro done s hs _ _ _
    exact ⟨s, rfl, by rwa [List.append_nil]⟩
  | cons m ms ih =>
    intro done s hs hroom hprints hmacs
    have hcons : done ++ m :: ms = done ++ [m] ++ ms := by simp
    have hm := hprints m (by simp)
    have hlt : (done.map (VdpnlMac.fid p.filterFmt)).length < size := by
      rw [List.length_map]
      simp only [List.length_append, List.length_cons] at hroom
      omega
    have hfits : FitsIn (m.fid p.filterFmt) (done.map (VdpnlMac.fid p.filterFmt)) := by
      refine fitsIn_printed hm (fun n hn => hprints n (List.mem_append_left _ hn)) fun n hn => ?_
      exact (List.pairwise_append.mp hmacs).2.2 n hn m List.mem_cons_self
    -- the filter goes behind those that were read so far
    obtain ⟨q, hq, hholds⟩ := getfid_takes hs.holds hlt (readFid_printed hm) hfits
    rw [List.length_map, ← hs.idx] at hq
    have hinside : s.idx < s.vsi.maclist.length := by
      rw [hs.holds.length (Nat.le_of_lt hlt), hs.idx]
      rwa [List.length_map] at hlt
    have hvalue : parseValue readers stale s .filter (fidValue p.filterFmt m) =
        .ok (some { s with vsi := q, idx := s.idx + 1 }) := by
      unfold parseValue
      rw [if_pos hinside, hq]
      rfl
    have hkey : getKeyworkVal "filter".toList = .filter := by decide
    show ∃ t, checkAll (parseArg readers stale) s
      (("filter".toList, fidValue p.filterFmt m) :: (fidArgs p.filterFmt ms ++ post)) = _ ∧ _
    rw [checkAll_cons (parseArg_stores hkey hvalue), hcons]
    rw [hcons] at hroom hprints hmacs
    refine ih (done ++ [m]) _ ⟨getfid_values hq p hs.values, ?_, ?_, hs.ouiList, hs.ouiIdx⟩ hroom
      hprints hmacs
    · rw [List.map_append]
      exact hholds
    · show s.idx + 1 = (done ++ [m]).length
      rw [hs.idx, List.length_append, List.length_singleton]

theorem readOui_printed (stale : UInt8) (ouiSize : Nat) {d : VdpnlOuiData δ}
    (h : OuiPrints printers readers d (body d)) :
    readOui readers stale (keyText d.ouiName ++ body d) = some d ∧ ∀ idx, idx < ouiSize →
      OuiInside readers stale ouiSize idx (keyText d.ouiName ++ body d) := by
  obtain ⟨reader, data, hreader, hread, hdata⟩ := h.read
  have hname : d.ouiName.length < 20 := h.name
  have htwo : (hexField 2 d.ouiName.length).length = 2 :=
    length_hexField (by decide) (show d.ouiName.length < 16 ^ 2 by omega)
  have hnum : hexNat 1 (keyText d.ouiName ++ body d) stale.toNat = d.ouiName.length := by
    unfold keyText
    rw [List.append_assoc]
    exact hexNat_hexField (by decide) (show d.ouiName.length < 256 ^ 1 by omega) _ _
  have hdrop : (keyText d.ouiName ++ body d).drop 2 = d.ouiName ++ body d := by
    unfold keyText
    rw [List.append_assoc]
    exact List.drop_left' htwo
  have hbody : (keyText d.ouiName ++ body d).drop (2 + d.ouiName.length) = body d := by
    rw [← List.drop_drop, hdrop, List.drop_left]
  have hlen : (keyText d.ouiName ++ body d).length = 2 + d.ouiName.length + (body d).length := by
    unfold keyText
    rw [List.length_append, List.length_append, htwo]
  constructor
  · unfold readOui ouiEntry
    rw [hnum, if_neg (by rw [hlen]; unfold vdp22OuiMaxName; omega), hdrop, List.take_left, hreader,
      hbody]
    simp only [Option.bind_eq_bind, Option.bind_some, hread]
    rw [← hdata]
  · intro idx hidx _
    rw [hnum, hlen]
    exact ⟨.inl (by omega), fun _ _ => ⟨hidx, fun _ => by omega⟩⟩

variable (stale) in
theorem ouis_taken {macs : List VdpnlMac} (ds : List (VdpnlOuiData δ)) :
    ∀ (done : List (VdpnlOuiData δ)) (s : VsiText δ), ReadSoFar size ouiSize p macs done s →
      (done ++ ds).length ≤ ouiSize → (∀ d ∈ ds, OuiPrints printers readers d (body d)) →
      ∃ t, checkAll (parseArg readers stale) s (ouiArgs body ds) = .ok (some t) ∧
        ReadSoFar size ouiSize p macs (done ++ ds) t := by
  induction ds with
  | nil =>
    intro done s hs _ _
    exact ⟨s, rfl, by rwa [List.append_nil]⟩
  | cons d ds ih =>
    intro done s hs hroom hprints
    have hcons : done ++ d :: ds = done ++ [d] ++ ds := by simp
    have hlt : done.length < ouiSize := by
      simp only [List.length_append, List.length_cons] at hroom
      omega
    have hlen : s.ouiList.length = ouiSize := by
      rw [hs.ouiList, length_fillFront (Nat.le_of_lt hlt)]
    obtain ⟨hentry, hinside⟩ := readOui_printed stale s.ouiList.length
      (hprints d List.mem_cons_self)
    have hvalue : parseValue readers stale s .oui (keyText d.ouiName ++ body d) =
        .ok (some { s with ouiList := s.ouiList.set s.ouiIdx d, ouiIdx := s.ouiIdx + 1 }) := by
      unfold parseValue
      rw [ouiStr2vdpnl_eq (hinside s.ouiIdx (by rw [hlen, hs.ouiIdx]; exact hlt)), hentry]
      rfl
    have hkey : getKeyworkVal "oui".toList = .oui := by decide
    show ∃ t, checkAll (parseArg readers stale) s
      (("oui".toList, keyText d.ouiName ++ body d) :: ouiArgs body ds) = _ ∧ _
    rw [checkAll_cons (parseArg_stores hkey hvalue), hcons]
    rw [hcons] at hroom
    refine ih (done ++ [d]) _ ⟨hs.values, hs.holds, hs.idx, ?_, ?_⟩ hroom
      fun e he => hprints e (List.mem_cons_of_mem d he)
    · show s.ouiList.set s.ouiIdx d = _
      rw [hs.ouiIdx, hs.ouiList, set_fillFront d hlt]
    · show s.ouiIdx + 1 = (done ++ [d]).length
      rw [hs.ouiIdx, List.length_append, List.length_singleton]

/-! ### Read back -/

/-- The request that was read is the VSI that was printed. -/
structure ReadBack (s : VsiText δ) (p : VdpnlVsi) (ouiList : List (VdpnlOuiData δ)) : Prop where
  values : SameValues s.vsi p
  filterFmt : s.vsi.filterFmt = p.filterFmt
  maclist : s.vsi.maclist = p.maclist
  ouiList : s.ouiList = ouiList

/-- An argument with its hints in the form of the input -/
def withHint (hint : CStr) (a : CStr × CStr) : CStr × CStr :=
  if a.1 = "hints".toList then (a.1, hint) else a

theorem map_withHint (hint : CStr) (body : VdpnlOuiData δ → CStr) (p : VdpnlVsi)
    (ds : List (VdpnlOuiData δ)) : (printedArgs body p ds).map (withHint hint) =
      (headArgs p ++ [("uuid".toList, vdpUuid2str p.vsiUuid), ("hints".toList, hint)]) ++
        (fidArgs p.filterFmt p.maclist ++ ouiArgs body ds) := by
  have hsame {key : String} (h : key.toList ≠ "hints".toList) (value : CStr) :
      withHint hint (key.toList, value) = (key.toList, value) := if_neg h
  have hfids : (fidArgs p.filterFmt p.maclist).map (withHint hint) =
      fidArgs p.filterFmt p.maclist := by
    unfold fidArgs
    rw [List.map_map]
    exact List.map_congr_left fun m _ => hsame (by decide) _
  have houis : (ouiArgs body ds).map (withHint hint) = ouiArgs body ds := by
    unfold ouiArgs
    rw [List.map_map]
    exact List.map_congr_left fun d _ => hsame (by decide) _
  unfold printedArgs
  rw [List.map_append, List.map_append, hfids, houis, List.append_assoc]
  refine congrArg (· ++ _) ?_
  unfold fixedArgs headArgs idArgs
  simp only [List.cons_append, List.nil_append, List.map_cons, List.map_nil]
  rw [hsame (by decide), hsame (by decide), hsame (by decide), hsame (by decide),
    hsame (by decide)]
  rfl

theorem length_hint_le {hint : CStr} (h : hintsText hint) : hint.length ≤ 4 := by
  have hword {word : String} (hw : isWord word hint = true) : hint.length = word.toList.length := by
    rw [← decide_eq_true_eq.mp hw, List.length_map]
  rcases h with h | h | h | h
  · rw [hword h]
    decide
  · rw [hword h]
    decide
  · rw [hword h]
    decide
  · rw [hword h]
    decide

theorem inputArgs_fit {hint : CStr}
    (hhint : hintsText hint) (h : ∀ d ∈ ds, OuiPrints printers readers d (body d)) :
    ∀ a ∈ (printedArgs body p ds).map (withHint hint), a.1.length < 256 ∧ a.2.length < 65536 := by
  have hprinted : ∀ a ∈ printedArgs body p ds, a.1.length < 256 ∧ a.2.length < 65536 := by
    intro a ha
    rcases List.mem_append.mp ha with ha | ha
    · rcases List.mem_append.mp ha with ha | ha
      · exact fixedArgs_fit p a ha
      · obtain ⟨m, -, rfl⟩ := List.mem_map.mp ha
        have hle : (fidValue p.filterFmt m).length ≤ 49 := List.length_take_le ..
        exact ⟨show "filter".toList.length < 256 by decide,
          show (fidValue p.filterFmt m).length < 65536 by omega⟩
    · obtain ⟨d, hd, rfl⟩ := List.mem_map.mp ha
      exact ⟨show "oui".toList.length < 256 by decide, (h d hd).short⟩
  intro a ha
  obtain ⟨b, hb, rfl⟩ := List.mem_map.mp ha
  have hlen := length_hint_le hhint
  unfold withHint
  split_ifs
  · exact ⟨(hprinted b hb).1, show hint.length < 65536 by omega⟩
  · exact hprinted b hb

theorem slots_of_keys {args : List (CStr × CStr)} (h : ∀ a ∈ args, a.1 ≠ []) :
    args.length ≤ countArgs (argValSize args) := by
  refine le_countArgs _ _ ?_
  unfold argValSize
  induction args with
  | nil => exact Nat.le_refl _
  | cons a args ih =>
    have hrest := ih fun b hb => h b (List.mem_cons_of_mem a hb)
    have hpos := List.length_pos_iff.mpr (h a List.mem_cons_self)
    rw [List.length_cons, List.map_cons, List.sum_cons]
    omega

/-- A VSI with the values of an input is read back from its text, once the hints are those of an
input. -/
theorem read_printed (hp : VsiPrints p)
    (h : ∀ d ∈ ds, OuiPrints printers readers d (body d)) {hint : CStr} (hhint : hintsText hint)
    (stale : UInt8) (stack : LenStack) :
    ∃ s, str2vdpnl readers stale stack (VsiText.zero δ p.maclist.length ds.length)
        (argValText ((printedArgs body p ds).map (withHint hint))) = .ok (0, s) ∧
      ReadBack s p ds := by
  have hfit := inputArgs_fit (p := p) hhint h
  have hkeys : ∀ a ∈ (printedArgs body p ds).map (withHint hint), a.1 ≠ [] := by
    rw [map_withHint]
    intro a ha
    rcases List.mem_append.mp ha with ha | ha
    · simp only [headArgs, List.cons_append, List.nil_append, List.mem_cons, List.not_mem_nil,
        or_false] at ha
      rcases ha with rfl | rfl | rfl | rfl | rfl | rfl
      all_goals exact List.cons_ne_nil _ _
    · rcases List.mem_append.mp ha with ha | ha
      · obtain ⟨m, -, rfl⟩ := List.mem_map.mp ha
        exact show "filter".toList ≠ [] by decide
      · obtain ⟨d, -, rfl⟩ := List.mem_map.mp ha
        exact show "oui".toList ≠ [] by decide
  have hne : (printedArgs body p ds).map (withHint hint) ≠ [] := by
    rw [map_withHint]
    exact List.cons_ne_nil _ _
  rw [str2vdpnl_eq hfit hne (slots_of_keys hkeys), map_withHint]
  -- the arguments up to the hints, then the filters, then the OUI entries
  obtain ⟨t, ht, hvalues, hfmt, hmaclist, houis, hidx, houiIdx⟩ :=
    values_taken readers stale p.maclist.length ds.length hp hhint
      (fidArgs p.filterFmt p.maclist ++ ouiArgs body ds)
  have hstart : ReadSoFar p.maclist.length ds.length p [] [] t :=
    ⟨hvalues, ⟨by simp, fun _ => hfmt, .nil, by simp, hmaclist⟩, hidx, houis, houiIdx⟩
  obtain ⟨u, hu, hfids⟩ := fids_taken readers stale p.maclist (ouiArgs body ds) [] t hstart
    (Nat.le_refl _) hp.fids hp.macs
  obtain ⟨v, hv, hall⟩ := ouis_taken stale ds [] u hfids (Nat.le_refl _) h
  rw [ht, hu, hv]
  refine ⟨v, rfl, hall.values, ?_, ?_, ?_⟩
  · cases hmacs : p.maclist with
    | nil =>
      have hnone := hall.holds.empty
      rw [hmacs] at hnone
      rw [hnone rfl, hp.empty hmacs]
    | cons m ms =>
      have hm : m ∈ p.maclist := by
        rw [hmacs]
        exact List.mem_cons_self
      rw [← hall.holds.format _ (List.mem_map_of_mem hm), (hp.fids m hm).fid_fif]
  · have hentries : (p.maclist.map (VdpnlMac.fid p.filterFmt)).map Fid.entry = p.maclist := by
      rw [List.map_map]
      exact (List.map_congr_left fun m hm => (hp.fids m hm).fid_entry).trans (List.map_id _)
    rw [hall.holds.maclist, List.nil_append, hentries, fillFront_full rfl]
  · rw [hall.ouiList, List.nil_append, fillFront_full rfl]

/-! ### Cisco -/

/-- What is printed behind the name of an entry -/
def entryBody (d : VdpnlOuiData VdpCiscoOui) : CStr := ciscoBody (d.data.getD {})

/-- The entries that are printed as they are read -/
structure EntryPrints (mem : CiscoMem) (d : VdpnlOuiData VdpCiscoOui) : Prop where
  ouiName : d.ouiName = "cisco".toList
  data : ∃ oui, d.data = some oui ∧ NameHolds oui ∧ CiscoPrints mem oui

theorem length_whole {oui : VdpCiscoOui} (h : NameHolds oui) (haddr : oui.vmAddrLen = 0) :
    (ciscoWhole oui).length < maxOuiDataLen := by
  obtain ⟨hlen, -⟩ := fieldText_name h.1
  have hname : oui.vmName.length < 100 := h.2
  have hfour : (hexField 4 oui.vmName.length).length = 4 :=
    length_hexField (by decide) (show oui.vmName.length < 16 ^ 4 by omega)
  have huuid : (fieldArg "vm_uuid" (vdpUuid2str oui.uuid)).length = 49 := by
    have hfield : (hexField 4 36).length = 4 := by decide
    have hkey : (keyText "vm_uuid".toList).length = 9 := by decide
    unfold fieldArg valueText
    rw [List.length_append, List.length_append, length_vdpUuid2str, hfield, hkey]
  have hcisco : (keyText "cisco".toList).length = 7 := by decide
  have hvmName : (keyText "vm_name".toList).length = 9 := by decide
  unfold ciscoWhole ciscoBody maxOuiDataLen
  rw [if_neg (not_not.mpr haddr), List.append_nil, List.length_append, List.length_append, hcisco]
  split_ifs
  all_goals
    simp only [List.length_append, List.length_nil, hvmName, hfour, hlen, huuid]
    omega

theorem ouiPrints_cisco {mem : CiscoMem} {d : VdpnlOuiData VdpCiscoOui} (h : EntryPrints mem d) :
    OuiPrints ciscoPrinters (ciscoReaders mem) d (entryBody d) := by
  obtain ⟨hcisco, oui, hdata, hname, hprints⟩ := h
  have hbody : entryBody d = ciscoBody oui := by
    unfold entryBody
    rw [hdata, Option.getD_some]
  have hwhole : keyText d.ouiName ++ entryBody d = ciscoWhole (d.data.getD {}) := by
    rw [hcisco]
    rfl
  have htmp : (ciscoWhole (d.data.getD {})).length < 200 := by
    rw [hdata, Option.getD_some]
    exact length_whole hname hprints.noAddr
  have hread := (cisco_read_iff mem hname).mpr hprints
  refine ⟨by rw [hcisco]; decide, by rw [hwhole]; omega, ⟨ciscoPrinter, if_pos hcisco, ?_⟩,
    ⟨_, oui, if_pos hcisco, ?_, hdata⟩⟩
  · intro room hroom
    rw [hwhole] at hroom ⊢
    exact ciscoPrinter_of_fits htmp hroom
  · rw [hbody, hread]

/-- The room ends within the key of an OUI entry, behind entries that are printed whole. -/
def EntryCut : Nat → List (VdpnlOuiData VdpCiscoOui) → Prop
  | _, [] => False
  | room, d :: ds =>
    if d.ouiName = "cisco".toList then
      let key := (keyText "oui".toList).length
      let whole := ciscoWhole (d.data.getD {})
      room ≤ key ∨ (whole.length < maxOuiDataLen ∧ key + (valueText whole).length < room ∧
        EntryCut (room - key - (valueText whole).length) ds)
    else EntryCut room ds

theorem keyCut_cisco (room : Nat) (ds : List (VdpnlOuiData VdpCiscoOui)) :
    KeyCut ciscoPrinters room ds ↔ EntryCut room ds := by
  induction ds generalizing room with
  | nil => exact Iff.rfl
  | cons d ds ih =>
    unfold KeyCut EntryCut ciscoPrinters
    by_cases hcisco : d.ouiName = "cisco".toList
    · rw [if_pos hcisco, if_pos hcisco]
      refine or_congr_right ?_
      constructor
      · rintro ⟨text, htext, hcut⟩
        obtain ⟨htmp, hroom, rfl⟩ := ciscoPrinter_ok htext
        exact ⟨htmp, by omega, (ih _).mp hcut⟩
      · rintro ⟨htmp, hroom, hcut⟩
        exact ⟨_, ciscoPrinter_of_fits htmp (by omega), (ih _).mpr hcut⟩
    · rw [if_neg hcisco, if_neg hcisco]
      exact ih room

/-! ### The round trip -/

/-- A VSI is printed and read back, or the buffer is said to be too small. -/
def TextRoundTrips (printers : OuiPrinters δ) (readers : OuiReaders δ) (stale : UInt8)
    (stack : LenStack) (p : VdpnlVsi) (ouiList : List (VdpnlOuiData δ)) (length : Nat) : Prop :=
  (vdpVdpnl2str printers p ouiList length).1 = 0 ∨
    ∃ s, str2vdpnl readers stale stack (VsiText.zero δ p.maclist.length ouiList.length)
        (vdpVdpnl2str printers p ouiList length).2 = .ok (0, s) ∧ ReadBack s p ouiList

theorem roundTrips_iff_noRoom (printers : OuiPrinters δ) (readers : OuiReaders δ) (stale : UInt8)
    (stack : LenStack) (p : VdpnlVsi) (ouiList : List (VdpnlOuiData δ)) (length : Nat) :
    TextRoundTrips printers readers stale stack p ouiList length ↔
      NoRoom printers p ouiList length := by
  obtain ⟨hzero, htext⟩ := printed_cases printers p ouiList length
  rw [← hzero]
  constructor
  · rintro (h | ⟨s, hs, -⟩)
    · exact h
    · by_contra hne
      obtain ⟨rest, hrest⟩ := htext hne
      rw [hrest] at hs
      exact parse_refused readers stale stack p rest _ s hs
  · exact Or.inl

/-- The buffer is too small for what comes before the filters, or it ends within the key of an OUI
entry. -/
def BufferEnds (p : VdpnlVsi) (ouiList : List (VdpnlOuiData VdpCiscoOui)) (length : Nat) : Prop :=
  let fixed := (argValText (fixedArgs p)).length
  let fids := (fidsWhole p.filterFmt p.maclist).length
  length ≤ fixed ∨ (fixed + fids < length ∧ EntryCut (length - fixed - fids) ouiList)

/-- A VSI with one filter and no OUI data -/
def oneFilterVsi : VdpnlVsi where
  request := vdp22Assoc
  vsiMgrid2 := .ofBytes [7]
  vsiTypeid := 5
  vsiTypeversion := 4
  filterFmt := vdp22FfmtMacvid
  maclist := [{ vlan := 2, qos := 3, mac := ⟨[0x52, 0, 0, 0x11, 0x22, 0x33], rfl⟩ }]

/-- The data of a machine `vm1` with a UUID -/
def vmEntry : VdpnlOuiData VdpCiscoOui where
  ouiName := "cisco".toList
  data := some { uuid := .ofBytes [0xfa, 0x9b], uuidSet := true, vmName := textBytes "vm1".toList }

/-- Memory with a NUL behind each copy -/
def cleanMem : CiscoMem where
  keyLen := 0
  dataLen := 0
  behind _ := []

theorem oneFilterVsi_prints : VsiPrints oneFilterVsi where
  mode := .inl rfl
  mgrid := .inl ⟨7, by decide, rfl⟩
  typeid := by decide
  fids m hm := by
    rw [List.mem_singleton.mp hm]
    exact ⟨by decide, by decide, rfl, .inr (.inl rfl), by decide, rfl⟩
  macs := List.pairwise_singleton ..
  empty := nofun

theorem vmEntry_prints : EntryPrints cleanMem vmEntry where
  ouiName := rfl
  data := ⟨_, rfl, ⟨by decide, by decide⟩, ⟨rfl, rfl, rfl⟩⟩

end Lldpad.Qbg
