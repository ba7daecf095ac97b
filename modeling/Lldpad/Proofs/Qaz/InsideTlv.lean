import Lldpad.Proofs.Qaz.Rx

/-!
# `Lldpad.Proofs.Qaz.InsideTlv`: what the decoders read of a TLV

`ieee8021qaz_rchange` lets a TLV through that has an OUI and a subtype. Each decoder then reads
at offsets of its own: the two ETS decoders up to byte 24, the PFC decoder up to byte 5, the
application decoder in units of three bytes from byte 5 on. `fits` is the length that makes
this right.

`rxLldpdu_returns` says when an LLDPDU is decoded inside its TLVs: the port does not work on it,
or the first TLV of each kind fits. `decoded_inside_iff` says so of each decoder beside it.
-/

namespace Lldpad.Qaz

open Lldpad.Lib
open Lldpad.Lldp (Bytes)

/-! ### The decoders -/

/-- A TLV of this subtype is as long as what its decoder reads. -/
def fits (subtype : UInt8) (length : Nat) : Bool :=
  if subtype = ieee8021qazEtscfgTlv ∨ subtype = ieee8021qazEtsrecTlv then
    ouiSubSize + 5 + 2 * maxTcs ≤ length
  else if subtype = ieee8021qazPfcTlv then ouiSubSize + 2 ≤ length
  else if subtype = ieee8021qazAppTlv then (length - (ouiSubSize + 1)) % 3 = 0
  else true

theorem fits_etscfg (n : Nat) : fits ieee8021qazEtscfgTlv n = true ↔ ouiSubSize + 21 ≤ n := by
  unfold fits
  rw [if_pos (.inl rfl), decide_eq_true_iff]
  rfl

theorem fits_etsrec (n : Nat) : fits ieee8021qazEtsrecTlv n = true ↔ ouiSubSize + 21 ≤ n := by
  unfold fits
  rw [if_pos (.inr rfl), decide_eq_true_iff]
  rfl

theorem fits_pfc (n : Nat) : fits ieee8021qazPfcTlv n = true ↔ ouiSubSize + 2 ≤ n := by
  unfold fits
  rw [if_neg (by decide), if_pos rfl, decide_eq_true_iff]

theorem fits_app (n : Nat) : fits ieee8021qazAppTlv n = true ↔ 3 ∣ n - (ouiSubSize + 1) := by
  unfold fits
  rw [if_neg (by decide), if_neg (by decide), if_pos rfl, decide_eq_true_iff,
    Nat.dvd_iff_mod_eq_zero]

theorem readPrioMap_returns (info : Bytes) (offset : Nat) :
    Returns (readPrioMap info offset) ↔ offset + 4 ≤ info.length := by
  unfold readPrioMap
  rw [foldlM_readAt_returns info (offset + ·) fun prioMap i b =>
    setPrioMap (setPrioMap prioMap (2 * i) ((b >>> 4) &&& 0xF)) (2 * i + 1) (b &&& 0xF)]
  simp only [List.mem_range]
  constructor
  · intro h
    have := h 3 (by decide)
    omega
  · intro h i hi
    omega

theorem readTcs_returns (info : Bytes) (offset : Nat) :
    Returns (readTcs info offset) ↔ offset + maxTcs ≤ info.length := by
  unfold readTcs
  rw [mapM_readAt_returns]
  simp only [List.mem_range]
  constructor
  · intro h
    have := h 7 (by decide)
    unfold maxTcs
    omega
  · intro h i hi
    omega

theorem processEtscfgTlv_returns (info : Bytes) :
    Returns (processEtscfgTlv info) ↔ fits ieee8021qazEtscfgTlv info.length = true := by
  unfold processEtscfgTlv
  rw [fits_etscfg,
    returns_bind fun _ => returns_bind fun _ => returns_bind fun _ => returns_bind_pure,
    readAt_returns, readPrioMap_returns, readTcs_returns, readTcs_returns]
  unfold ouiSubSize maxTcs
  omega

theorem processEtsrecTlv_returns (info : Bytes) :
    Returns (processEtsrecTlv info) ↔ fits ieee8021qazEtsrecTlv info.length = true := by
  unfold processEtsrecTlv
  rw [fits_etsrec, returns_bind fun _ => returns_bind fun _ => returns_bind_pure,
    readPrioMap_returns, readTcs_returns, readTcs_returns]
  unfold ouiSubSize maxTcs
  omega

theorem processPfcTlv_returns (info : Bytes) (pfc : PfcAttrib) :
    Returns (processPfcTlv info pfc) ↔ fits ieee8021qazPfcTlv info.length = true := by
  unfold processPfcTlv
  rw [fits_pfc, returns_bind fun _ => returns_bind_pure, readAt_returns, readAt_returns]
  omega

/-- The loop over the application entries takes three bytes in each turn, also where fewer are
left. -/
theorem processAppEntries_returns (bs : Bytes) (head : List AppObj) :
    Returns (processAppEntries bs head) ↔ bs.length % 3 = 0 := by
  induction bs, head using processAppEntries.induct with
  | case1 head => simp [processAppEntries, returns_ok]
  | case2 head prs hi lo rest ih =>
    rw [processAppEntries, ih]
    simp only [List.length_cons]
    omega
  | case3 bs head hnil hthree =>
    match bs with
    | [] => exact absurd rfl hnil
    | [_] | [_, _] => simp [processAppEntries, not_returns_error]
    | prs :: hi :: lo :: rest => exact absurd rfl (hthree prs hi lo rest)

theorem processAppTlv_returns (info : Bytes) (head : List AppObj) :
    Returns (processAppTlv info head) ↔ fits ieee8021qazAppTlv info.length = true := by
  unfold processAppTlv
  rw [fits_app, processAppEntries_returns, List.length_drop, Nat.dvd_iff_mod_eq_zero]

/-! ### Where the decoders stop -/

theorem readPrioMap_stopsOnly (info : Bytes) (offset : Nat) :
    StopsOnly .outOfBounds (readPrioMap info offset) :=
  foldlM_stopsOnly (fun _ _ => (readAt_stopsOnly _ _).bind fun _ _ => stopsOnly_of_ok ⟨_, rfl⟩) _ _

theorem readTcs_stopsOnly (info : Bytes) (offset : Nat) :
    StopsOnly .outOfBounds (readTcs info offset) := mapM_stopsOnly (fun _ => readAt_stopsOnly _ _) _

theorem processEtscfgTlv_stopsOnly (info : Bytes) :
    StopsOnly .outOfBounds (processEtscfgTlv info) :=
  (readAt_stopsOnly _ _).bind fun _ _ => (readPrioMap_stopsOnly _ _).bind fun _ _ =>
    (readTcs_stopsOnly _ _).bind fun _ _ => (readTcs_stopsOnly _ _).bind fun _ _ =>
      stopsOnly_of_ok ⟨_, rfl⟩

theorem processEtsrecTlv_stopsOnly (info : Bytes) :
    StopsOnly .outOfBounds (processEtsrecTlv info) :=
  (readPrioMap_stopsOnly _ _).bind fun _ _ => (readTcs_stopsOnly _ _).bind fun _ _ =>
    (readTcs_stopsOnly _ _).bind fun _ _ => stopsOnly_of_ok ⟨_, rfl⟩

theorem processPfcTlv_stopsOnly (info : Bytes) (pfc : PfcAttrib) :
    StopsOnly .outOfBounds (processPfcTlv info pfc) :=
  (readAt_stopsOnly _ _).bind fun _ _ => (readAt_stopsOnly _ _).bind fun _ _ =>
    stopsOnly_of_ok ⟨_, rfl⟩

theorem processAppTlv_stopsOnly (info : Bytes) (head : List AppObj) :
    StopsOnly .outOfBounds (processAppTlv info head) := by
  have hentries (bs : Bytes) (head : List AppObj) :
      StopsOnly .outOfBounds (processAppEntries bs head) := by
    induction bs, head using processAppEntries.induct with
    | case1 head => exact stopsOnly_of_ok ⟨_, rfl⟩
    | case2 head prs hi lo rest ih => exact ih
    | case3 bs head hnil hthree =>
      rw [processAppEntries.eq_3 bs head hnil hthree]
      exact fun g hg => (Except.error.inj hg).symm
  exact hentries _ _

theorem mibUpdateObjects_stopsOnly (rx : UnpkdTlvs) (tlvs : QazTlvs) :
    StopsOnly .outOfBounds (mibUpdateObjects rx tlvs) := by
  have hpfc : StopsOnly .outOfBounds (mibUpdatePfc rx tlvs.pfc) := by
    unfold mibUpdatePfc
    split
    · exact processPfcTlv_stopsOnly _ _
    · exact stopsOnly_of_ok ⟨_, rfl⟩
  have happ : StopsOnly .outOfBounds (mibUpdateApp rx tlvs.appHead) := by
    unfold mibUpdateApp
    split
    · exact processAppTlv_stopsOnly _ _
    · exact stopsOnly_of_ok ⟨_, rfl⟩
  exact (optionMapM_stopsOnly processEtscfgTlv_stopsOnly _).bind fun _ _ =>
    (optionMapM_stopsOnly processEtsrecTlv_stopsOnly _).bind fun _ _ => hpfc.bind fun _ _ =>
      happ.bind fun _ _ => stopsOnly_of_ok ⟨_, rfl⟩

/-! ### An LLDPDU -/

/-- Each TLV that is kept fits. -/
def UnpkdTlvs.fit (rx : UnpkdTlvs) : Prop :=
  (∀ info, rx.etscfg = some info → fits ieee8021qazEtscfgTlv info.length = true) ∧
  (∀ info, rx.etsrec = some info → fits ieee8021qazEtsrecTlv info.length = true) ∧
  (∀ info, rx.pfc = some info → fits ieee8021qazPfcTlv info.length = true) ∧
  (∀ info, rx.app = some info → fits ieee8021qazAppTlv info.length = true)

theorem mibUpdatePfc_returns (rx : UnpkdTlvs) (pfc : PfcAttrib) :
    Returns (mibUpdatePfc rx pfc) ↔
      ∀ info, rx.pfc = some info → fits ieee8021qazPfcTlv info.length = true := by
  unfold mibUpdatePfc
  cases rx.pfc with
  | none => exact iff_of_true (returns_ok _) nofun
  | some info => simp [processPfcTlv_returns]

theorem mibUpdateApp_returns (rx : UnpkdTlvs) (head : List AppObj) :
    Returns (mibUpdateApp rx head) ↔
      ∀ info, rx.app = some info → fits ieee8021qazAppTlv info.length = true := by
  unfold mibUpdateApp
  cases rx.app with
  | none => exact iff_of_true (returns_ok _) nofun
  | some info => simp [processAppTlv_returns]

theorem mibUpdateObjects_returns (rx : UnpkdTlvs) (tlvs : QazTlvs) :
    Returns (mibUpdateObjects rx tlvs) ↔ rx.fit := by
  unfold mibUpdateObjects UnpkdTlvs.fit
  rw [returns_bind fun _ => returns_bind fun _ => returns_bind fun _ => returns_bind_pure]
  simp only [optionMapM_returns, processEtscfgTlv_returns, processEtsrecTlv_returns,
    mibUpdatePfc_returns, mibUpdateApp_returns]

/-- The end of an LLDPDU reads inside the TLVs that were kept, or the port does not work on
them. -/
theorem qazEnd_returns {mac : Bytes} {old tlvs : QazTlvs} {rx : UnpkdTlvs} {dcbx : Bool}
    (hr : Receiving mac old rx tlvs) :
    Returns (qazEnd dcbx tlvs) ↔
      ((old.active && !(dcbx && rx = {})) = true → rx.fit) := by
  have hactive : tlvs.active = old.active := by rw [hr.same]
  have hrx : tlvs.rx = some rx := by rw [hr.same]
  have hdu : tlvs.qazdu = !decide (rx = {}) := by
    rw [Bool.eq_iff_iff, hr.nonempty]
    simp
  have hstays : (tlvs.active && dcbx && !tlvs.qazdu) =
      (old.active && (dcbx && decide (rx = {}))) := by
    rw [hactive, hdu, Bool.not_not, Bool.and_assoc]
  unfold qazEnd
  rw [hstays]
  by_cases hact : old.active = true
  · rw [hact]
    simp only [Bool.true_and]
    by_cases hleave : (dcbx && decide (rx = {})) = true
    · -- The port leaves 802.1Qaz to the older protocols.
      rw [if_pos hleave, hleave]
      exact iff_of_true (returns_ok _) nofun
    · rw [if_neg hleave, if_pos (hactive.trans hact), hrx, Bool.eq_false_iff.mpr hleave]
      rw [returns_bind_pure, mibUpdateObjects_returns]
      simp
  · rw [Bool.eq_false_iff.mpr hact] at hactive ⊢
    simp only [Bool.false_and, Bool.false_eq_true, if_false, hactive, false_implies, iff_true]
    exact returns_ok _

theorem rxLldpdu_start (mac : Bytes) (p : Lldpdu) (tlvs : QazTlvs) :
    rxLldpdu mac p tlvs = rxTlvs mac p.dcbx
      (p.tlvs.map (fun info => { type := type127, info := info }) ++
        [{ type := type0, info := [] }]) { tlvs with rx := some {}, qazdu := false } := rfl

/-- **An LLDPDU is decoded inside its TLVs** exactly when the port does not work on it, or the
first TLV of each kind fits. -/
theorem rxLldpdu_returns (mac : Bytes) (p : Lldpdu) (tlvs : QazTlvs) :
    Returns (rxLldpdu mac p tlvs) ↔ (worksOn tlvs p = true → (rxOf p.tlvs).fit) := by
  obtain ⟨rx', t, hr, hrun⟩ := (receiving_start mac tlvs).rxTlvs p.dcbx p.tlvs
  rw [rxLldpdu_start]
  unfold worksOn Lldpdu.wellFormed
  split_ifs at hrun with hwf
  · obtain ⟨rfl, hrun⟩ := hrun
    rw [hrun, qazEnd_returns hr, hwf, Bool.true_and]
    rfl
  · -- A TLV is too short: the end is not reached.
    rw [hrun, Bool.eq_false_iff.mpr hwf]
    exact iff_of_true (returns_ok _) nofun

/-- The first TLV of each kind is as long as what its decoder reads. -/
def Lldpdu.fits (p : Lldpdu) : Prop :=
  ∀ subtype info, p.tlvs.find? (isQazTlv subtype) = some info →
    Qaz.fits subtype info.length = true

theorem rxOf_fit (p : Lldpdu) : (rxOf p.tlvs).fit ↔ p.fits := by
  unfold UnpkdTlvs.fit Lldpdu.fits
  rw [rxOf_etscfg, rxOf_etsrec, rxOf_pfc, rxOf_app]
  constructor
  · rintro ⟨hcfg, hrec, hpfc, happ⟩ subtype info hfind
    by_cases hc : subtype = ieee8021qazEtscfgTlv
    · exact hc ▸ hcfg info (hc ▸ hfind)
    by_cases hr : subtype = ieee8021qazEtsrecTlv
    · exact hr ▸ hrec info (hr ▸ hfind)
    by_cases hp : subtype = ieee8021qazPfcTlv
    · exact hp ▸ hpfc info (hp ▸ hfind)
    by_cases ha : subtype = ieee8021qazAppTlv
    · exact ha ▸ happ info (ha ▸ hfind)
    -- No decoder reads a TLV of another kind.
    simp [Qaz.fits, hc, hr, hp, ha]
  · intro h
    exact ⟨h _, h _, h _, h _⟩

theorem qazEnd_stopsOnly {mac : Bytes} {old tlvs : QazTlvs} {rx : UnpkdTlvs} {dcbx : Bool}
    (hr : Receiving mac old rx tlvs) : StopsOnly .outOfBounds (qazEnd dcbx tlvs) := by
  have hrx : tlvs.rx = some rx := by rw [hr.same]
  unfold qazEnd
  by_cases hleave : (tlvs.active && dcbx && !tlvs.qazdu) = true
  · rw [if_pos hleave]
    exact stopsOnly_of_ok ⟨_, rfl⟩
  · rw [if_neg hleave]
    by_cases hact : tlvs.active = true
    · rw [if_pos hact, hrx]
      exact (mibUpdateObjects_stopsOnly _ _).bind fun _ _ => stopsOnly_of_ok ⟨_, rfl⟩
    · rw [if_neg hact]
      exact stopsOnly_of_ok ⟨_, rfl⟩

theorem rxLldpdu_stopsOnly (mac : Bytes) (p : Lldpdu) (tlvs : QazTlvs) :
    StopsOnly .outOfBounds (rxLldpdu mac p tlvs) := by
  obtain ⟨rx', t, hr, hrun⟩ := (receiving_start mac tlvs).rxTlvs p.dcbx p.tlvs
  rw [rxLldpdu_start]
  split_ifs at hrun with hwf
  · rw [hrun.2]
    exact qazEnd_stopsOnly hr
  · rw [hrun]
    exact stopsOnly_of_ok ⟨_, rfl⟩

/-- **Decoding inside the TLV.** An LLDPDU never makes the module read behind a TLV exactly when
the port does not work on it or the first TLV of each kind fits. Each decoder by itself reads
inside its TLV exactly when the TLV fits, the application decoder in whole units. -/
theorem decoded_inside_iff (mac : Bytes) (p : Lldpdu) (tlvs : QazTlvs) :
    (rxLldpdu mac p tlvs ≠ .error .outOfBounds ↔ (worksOn tlvs p = true → p.fits)) ∧
      ∀ info : Bytes,
        (Returns (processEtscfgTlv info) ↔ ouiSubSize + 21 ≤ info.length) ∧
        (Returns (processEtsrecTlv info) ↔ ouiSubSize + 21 ≤ info.length) ∧
        (∀ pfc, Returns (processPfcTlv info pfc) ↔ ouiSubSize + 2 ≤ info.length) ∧
        (∀ head, Returns (processAppTlv info head) ↔ 3 ∣ info.length - (ouiSubSize + 1)) := by
  refine ⟨?_, fun info => ⟨?_, ?_, fun pfc => ?_, fun head => ?_⟩⟩
  · rw [← rxOf_fit, ← rxLldpdu_returns mac p tlvs]
    have hstops := rxLldpdu_stopsOnly mac p tlvs
    generalize rxLldpdu mac p tlvs = result at hstops
    cases result with
    | ok tlvs' => exact iff_of_true nofun (returns_ok tlvs')
    | error f =>
      rw [hstops f rfl]
      exact iff_of_false (fun hne => hne rfl) (not_returns_error _)
  · rw [processEtscfgTlv_returns, fits_etscfg]
  · rw [processEtsrecTlv_returns, fits_etsrec]
  · rw [processPfcTlv_returns, fits_pfc]
  · rw [processAppTlv_returns, fits_app]

/-- An ETS configuration TLV, an ETS recommendation TLV, a PFC TLV and an application TLV that
are let through and end before their fields do. -/
theorem tlvs_cut_short :
    let port := qazIfup { mac := [2, 0, 0, 0, 0, 1] }
    let rx (info : Bytes) := rxLldpdu [2, 0, 0, 0, 0, 2] { tlvs := [info] } port
    rx (tlvHeader ieee8021qazEtscfgTlv) = .error .outOfBounds ∧
      rx (tlvHeader ieee8021qazEtsrecTlv ++ [0, 1, 2]) = .error .outOfBounds ∧
      rx (tlvHeader ieee8021qazPfcTlv ++ [8]) = .error .outOfBounds ∧
      rx (tlvHeader ieee8021qazAppTlv ++ [0, 0x21, 0x89]) = .error .outOfBounds := by
  decide +kernel

end Lldpad.Qaz
