import Lldpad.Proofs.Qaz.AppTable
import Lldpad.Proofs.Qaz.EtsLists
import Lldpad.Proofs.Qaz.PfcAgreement
import Lldpad.Proofs.Tlv.Pack
import Mathlib.Data.List.Dedup
import Mathlib.Tactic.IntervalCases

/-!
# `Lldpad.Proofs.Qaz.TlvRoundTrip`: the TLVs of 802.1Qaz, built and read

What one port builds another port reads back, part by part: the priority map (`readPrioMap_at`),
a table (`readTcs_at`) and the application entries (`processAppEntries_flatMap`).

An ETS configuration announces the tables that are in use (`EtsAttrib.inUse`): those of the
neighbour after its recommendation was taken. An application entry has three bits for its
priority and three for its selector (`onWire`). The receiver puts each new entry at the head of
its table, so the entries come back last one first.
-/

namespace Lldpad.Qaz

open Lldpad.Lib
open Lldpad.Lldp (Bytes)

/-! ### The priority map -/

theorem upperHalf (m : UInt32) {i : Nat} (hi : i < 4) :
    (m >>> (8 * (3 - i)).toUInt32).toUInt8 >>> 4 &&& 0xF = getPrioMap m (2 * i) := by
  have hplace : ∀ k < 32, k.toUInt32.toNat % 32 = k := by
    intro k hk
    simp only [Nat.toUInt32, UInt32.toNat_ofNat']
    omega
  have hpow : 2 ^ (4 * (7 - 2 * i)) = 2 ^ (8 * (3 - i)) * 2 ^ 4 := by
    rw [← Nat.pow_add]
    congr 1
    omega
  unfold getPrioMap
  rw [if_neg (by omega)]
  refine UInt8.toNat_inj.mp ?_
  simp only [UInt8.toNat_and, UInt8.toNat_shiftRight, UInt32.toNat_toUInt8, UInt32.toNat_and,
    UInt32.toNat_shiftRight, hplace (8 * (3 - i)) (by omega), hplace (4 * (7 - 2 * i)) (by omega),
    show (0xF : UInt8).toNat = 2 ^ 4 - 1 from rfl, show (0xF : UInt32).toNat = 2 ^ 4 - 1 from rfl,
    show (4 : UInt8).toNat % 8 = 4 from rfl, Nat.and_two_pow_sub_one_eq_mod,
    Nat.shiftRight_eq_div_pow, hpow]
  rw [← Nat.div_div_eq_div_mul]
  omega

theorem lowerHalf (m : UInt32) {i : Nat} (hi : i < 4) :
    (m >>> (8 * (3 - i)).toUInt32).toUInt8 &&& 0xF = getPrioMap m (2 * i + 1) := by
  have hshift : 4 * (7 - (2 * i + 1)) = 8 * (3 - i) := by omega
  unfold getPrioMap
  rw [if_neg (by omega), hshift]
  refine UInt8.toNat_inj.mp ?_
  simp only [UInt8.toNat_and, UInt32.toNat_toUInt8, UInt32.toNat_and,
    show (0xF : UInt8).toNat = 2 ^ 4 - 1 from rfl, show (0xF : UInt32).toNat = 2 ^ 4 - 1 from rfl,
    Nat.and_two_pow_sub_one_eq_mod]
  omega

theorem readPrioMap_at {info : Bytes} {offset : Nat} {m : UInt32}
    (h : At info offset (htonl m)) : readPrioMap info offset = .ok m := by
  refine (foldlM_readAt_of_at h (fun prioMap i b => setPrioMap (setPrioMap prioMap (2 * i)
    ((b >>> 4) &&& 0xF)) (2 * i + 1) (b &&& 0xF)) 0).trans (congrArg _ ?_)
  refine prioMap_ext fun p hp => ?_
  have hset : ∀ (acc : UInt32) (q : Nat) (tc : UInt8), q < 8 →
      getPrioMap (setPrioMap acc q (tc &&& 0xF)) p =
        if p = q then tc &&& 0xF else getPrioMap acc p := fun acc q tc hq =>
    getPrioMap_setPrioMap acc (by
      rw [UInt8.toNat_and, show (0xF : UInt8).toNat = 2 ^ 4 - 1 from rfl,
        Nat.and_two_pow_sub_one_eq_mod]
      omega) hq hp
  simp only [htonl, List.zipIdx_cons, List.zipIdx_nil, List.foldl_cons, List.foldl_nil]
  rw [hset _ 7 _ (by decide), hset _ 6 _ (by decide), hset _ 5 _ (by decide),
    hset _ 4 _ (by decide), hset _ 3 _ (by decide), hset _ 2 _ (by decide),
    hset _ 1 _ (by decide), hset _ 0 _ (by decide)]
  interval_cases p
  · exact upperHalf m (i := 0) (by decide)
  · exact lowerHalf m (i := 0) (by decide)
  · exact upperHalf m (i := 1) (by decide)
  · exact lowerHalf m (i := 1) (by decide)
  · exact upperHalf m (i := 2) (by decide)
  · exact lowerHalf m (i := 2) (by decide)
  · exact upperHalf m (i := 3) (by decide)
  · exact lowerHalf m (i := 3) (by decide)

/-! ### The tables -/

theorem readTcs_at {info : Bytes} {offset : Nat} {table : Bytes} (hlen : table.length = maxTcs)
    (h : At info offset table) : readTcs info offset = .ok table := by
  unfold readTcs
  rw [← hlen]
  exact mapM_readAt_of_at h

/-- The tables that an ETS configuration TLV announces: those of the neighbour after its
recommendation was taken -/
def EtsAttrib.inUse (ets : EtsAttrib) : Option EtsrecObj :=
  match ets.currentState with
  | .init => some { prioMap := ets.cfgl.prioMap, tcBw := ets.cfgl.tcBw, tsaMap := ets.cfgl.tsaMap }
  | .rxRecommend => ets.recr

/-- The tables of an ETS TLV have an entry for each traffic class. -/
def EtsrecObj.Full (tables : EtsrecObj) : Prop :=
  tables.tcBw.length = maxTcs ∧ tables.tsaMap.length = maxTcs

/-- The information of an ETS TLV -/
def etsInfo (subtype flags : UInt8) (tables : EtsrecObj) : Bytes :=
  tlvHeader subtype ++ [flags] ++ htonl tables.prioMap ++ tables.tcBw ++ tables.tsaMap

theorem at_etsInfo (subtype flags : UInt8) {tables : EtsrecObj} (h : tables.Full) :
    At (etsInfo subtype flags tables) ouiSubSize [flags] ∧
      At (etsInfo subtype flags tables) (ouiSubSize + 1) (htonl tables.prioMap) ∧
      At (etsInfo subtype flags tables) (ouiSubSize + 5) tables.tcBw ∧
      At (etsInfo subtype flags tables) (ouiSubSize + 13) tables.tsaMap := by
  have hall : At (etsInfo subtype flags tables) 0 (etsInfo subtype flags tables) := by
    simpa using at_zero (etsInfo subtype flags tables) []
  unfold etsInfo at hall
  simp only [at_append_iff] at hall
  obtain ⟨⟨⟨⟨_, hflags⟩, hmap⟩, hbw⟩, htsa⟩ := hall
  have hlen :
      (tlvHeader subtype ++ [flags] ++ htonl tables.prioMap ++ tables.tcBw).length = 17 := by
    rw [List.length_append, h.1]
    rfl
  rw [hlen] at htsa
  exact ⟨hflags, hmap, hbw, htsa⟩

theorem length_etsInfo (subtype flags : UInt8) {tables : EtsrecObj} (h : tables.Full) :
    (etsInfo subtype flags tables).length = 25 := by
  unfold etsInfo
  rw [List.length_append, List.length_append, h.1, h.2]
  rfl

theorem processEtscfgTlv_bldEtscfgTlv {ets : EtsAttrib} {tables : EtsrecObj}
    (huse : ets.inUse = some tables) (hfull : tables.Full) :
    ∃ info, bldEtscfgTlv ets = .ok info ∧ info.length = 25 ∧ processEtscfgTlv info = .ok
      { willing := ets.cfgl.willing
        cbs := ets.cfgl.cbs
        maxTcs := ets.cfgl.maxTcs &&& 0x7
        prioMap := tables.prioMap
        tcBw := tables.tcBw
        tsaMap := tables.tsaMap } := by
  have hbuilt : bldEtscfgTlv ets = .ok (etsInfo ieee8021qazEtscfgTlv (flagBit ets.cfgl.willing 7 |||
      flagBit ets.cfgl.cbs 6 ||| (ets.cfgl.maxTcs &&& 0x7)) tables) := by
    unfold EtsAttrib.inUse at huse
    unfold bldEtscfgTlv
    cases hstate : ets.currentState with
    | init =>
      rw [hstate] at huse
      cases huse
      rfl
    | rxRecommend =>
      rw [hstate] at huse
      dsimp only at huse ⊢
      rw [huse]
      rfl
  have hsmall : ets.cfgl.maxTcs &&& 0x7 < 64 := by
    rw [UInt8.lt_iff_toNat_lt, UInt8.toNat_and, show (0x7 : UInt8).toNat = 2 ^ 3 - 1 from rfl,
      Nat.and_two_pow_sub_one_eq_mod]
    exact (Nat.mod_lt _ (by decide)).trans (by decide)
  obtain ⟨hwilling, hcbs, hmax⟩ := flags_read ets.cfgl.willing ets.cfgl.cbs hsmall
  generalize flagBit ets.cfgl.willing 7 ||| flagBit ets.cfgl.cbs 6 ||| (ets.cfgl.maxTcs &&& 0x7) =
    flags at hbuilt hwilling hcbs hmax
  have hclasses : flags &&& 0x7 = ets.cfgl.maxTcs &&& 0x7 := by
    have hmask : ∀ x : UInt8, x &&& 0x0F &&& 0x7 = x &&& 0x7 := fun x => UInt8.and_assoc x 0x0F 0x7
    rw [← hmask, hmax, hmask, UInt8.and_assoc]
    rfl
  obtain ⟨hflags, hmap, hbw, htsa⟩ := at_etsInfo ieee8021qazEtscfgTlv flags hfull
  refine ⟨_, hbuilt, length_etsInfo _ _ hfull, ?_⟩
  unfold processEtscfgTlv
  rw [readAt_of_at hflags, bind_ok, readPrioMap_at hmap, bind_ok, readTcs_at hfull.1 hbw, bind_ok,
    readTcs_at hfull.2 htsa, bind_ok, hwilling, hcbs, hclasses]
  rfl

theorem processEtsrecTlv_bldEtsrecTlv {ets : EtsAttrib} (hfull : ets.recl.Full) :
    processEtsrecTlv (bldEtsrecTlv ets) = .ok ets.recl := by
  obtain ⟨_, hmap, hbw, htsa⟩ := at_etsInfo ieee8021qazEtsrecTlv 0 hfull
  show processEtsrecTlv (etsInfo ieee8021qazEtsrecTlv 0 ets.recl) = _
  unfold processEtsrecTlv
  rw [readPrioMap_at hmap, bind_ok, readTcs_at hfull.1 hbw, bind_ok, readTcs_at hfull.2 htsa,
    bind_ok]
  rfl

/-! ### The application table -/

/-- An entry as a TLV has it: three bits of priority and three of selector -/
def onWire (app : DcbApp) : DcbApp :=
  { app with
    selector := app.selector &&& 0x7
    priority := (app.priority ||| (app.selector >>> 5)) &&& 0x7 }

theorem appOfBytes_appPrio (app : DcbApp) :
    appOfBytes ((app.priority <<< 5) ||| app.selector) (app.protocol >>> 8).toUInt8
      app.protocol.toUInt8 = onWire app := by
  have hlow : ∀ k : Fin 256, (UInt8.ofNat k <<< 5) &&& 0x07 = 0 := by decide +kernel
  have hhigh : ∀ k : Fin 256, ((UInt8.ofNat k <<< 5) &&& 0xE0) >>> 5 = UInt8.ofNat k &&& 0x07 := by
    decide +kernel
  have hrest : ∀ k : Fin 256, (UInt8.ofNat k &&& 0xE0) >>> 5 = (UInt8.ofNat k >>> 5) &&& 0x07 := by
    decide +kernel
  have hor : ∀ x y z : UInt8, (x ||| y) &&& z = x &&& z ||| y &&& z := by
    intro x y z
    refine UInt8.toNat_inj.mp ?_
    simp only [UInt8.toNat_and, UInt8.toNat_or, Nat.and_or_distrib_right]
  have hshift : ∀ x y : UInt8, (x ||| y) >>> 5 = x >>> 5 ||| y >>> 5 := by
    intro x y
    refine UInt8.toNat_inj.mp ?_
    simp only [UInt8.toNat_shiftRight, UInt8.toNat_or, Nat.shiftRight_or_distrib]
  have hlow := hlow ⟨app.priority.toNat, app.priority.toNat_lt⟩
  have hhigh := hhigh ⟨app.priority.toNat, app.priority.toNat_lt⟩
  have hrest := hrest ⟨app.selector.toNat, app.selector.toNat_lt⟩
  rw [UInt8.ofNat_toNat] at hlow hhigh hrest
  unfold appOfBytes onWire
  rw [hor, hor, hor, hlow, hshift, hhigh, hrest, UInt8.zero_or]
  exact congrArg (DcbApp.mk _ _) (Tlv.ntohs_htons app.protocol [])

theorem processAppEntries_flatMap (apps : List DcbApp) (head : List AppObj) :
    processAppEntries (apps.flatMap appPrio) head = .ok ((apps.map onWire).foldl peerApp head) := by
  induction apps generalizing head with
  | nil => rfl
  | cons app rest ih =>
    rw [List.flatMap_cons, List.map_cons, List.foldl_cons, ← ih, ← appOfBytes_appPrio]
    rfl

/-- The entry of a neighbour, as it is announced -/
def announcedRow (app : DcbApp) : AppObj := { app := app, peer := true, hw := .set }

theorem peerApp_announced (apps : List DcbApp) (app : DcbApp) :
    peerApp (apps.map announcedRow) app = (apps.insert app).map announcedRow := by
  have hkeys : (apps.map announcedRow).map (·.app) = apps := by
    rw [List.map_map]
    exact List.map_id apps
  have hself : ∀ np ∈ apps.map announcedRow, ({ np with hw := .set } : AppObj) = np := by
    intro np hnp
    obtain ⟨app, _, rfl⟩ := List.mem_map.mp hnp
    rfl
  unfold peerApp updateApp
  by_cases hmem : app ∈ apps
  · rw [modifyKey_self hself (hkeys.symm ▸ hmem), List.insert_of_mem hmem]
  · have hnone : ∀ f : AppObj → AppObj,
        modifyKey (·.app) app f (apps.map announcedRow) = none := fun f =>
      modifyKey_none.mpr (rowOf_eq_none.mpr (hkeys.symm ▸ hmem))
    rw [hnone, List.insert_of_not_mem hmem]
    unfold modApp updateApp
    rw [hnone]
    rfl

theorem foldl_peerApp_nil (apps : List DcbApp) :
    apps.foldl peerApp [] = apps.reverse.dedup.map announcedRow := by
  induction apps using List.reverseRecOn with
  | nil => rfl
  | append_singleton apps app ih =>
    have hinsert : apps.reverse.dedup.insert app = (app :: apps.reverse).dedup := by
      by_cases hmem : app ∈ apps.reverse
      · rw [List.insert_of_mem (List.mem_dedup.mpr hmem), List.dedup_cons_of_mem hmem]
      · rw [List.insert_of_not_mem (mt List.mem_dedup.mp hmem), List.dedup_cons_of_notMem hmem]
    rw [List.foldl_append, ih, List.foldl_cons, List.foldl_nil, peerApp_announced, hinsert,
      List.reverse_append, List.reverse_singleton, List.singleton_append]

theorem onWire_of_fits {app : DcbApp} (hprio : app.priority < 8) (hsel : app.selector < 8) :
    onWire app = app := by
  have hall : ∀ p s : Fin 8, UInt8.ofNat s &&& 0x7 = UInt8.ofNat s ∧
      (UInt8.ofNat p ||| (UInt8.ofNat s >>> 5)) &&& 0x7 = UInt8.ofNat p := by decide
  have hbits := hall ⟨app.priority.toNat, UInt8.lt_iff_toNat_lt.mp hprio⟩
    ⟨app.selector.toNat, UInt8.lt_iff_toNat_lt.mp hsel⟩
  rw [UInt8.ofNat_toNat, UInt8.ofNat_toNat] at hbits
  unfold onWire
  rw [hbits.1, hbits.2]

theorem processAppTlv_bldAppTlv (apps : List DcbApp) (head : List AppObj) :
    processAppTlv (tlvHeader ieee8021qazAppTlv ++ [0] ++ apps.flatMap appPrio) head =
      .ok ((apps.map onWire).foldl peerApp (appReset head)) :=
  processAppEntries_flatMap apps (appReset head)

/-! ### On the wire -/

/-- The information of an organizationally specific TLV comes through `pack_tlv` and
`unpack_tlv`. -/
def Packs (info : Bytes) : Prop :=
  ∃ (t : Tlv.UnpackedTlv) (p : Tlv.PackedTlv), t.type = 127 ∧ t.info = info ∧
    Tlv.packTlv t = .ok (some p) ∧ Tlv.unpackTlv p = .ok t

theorem packs_of_length (info : Bytes) (hsome : 0 < info.length) (hfits : info.length ≤ 511) :
    Packs info := by
  have hlen : info.length.toUInt16.toNat = info.length := by
    simp only [Nat.toUInt16, UInt16.toNat_ofNat']
    omega
  have hne : info.length.toUInt16 ≠ 0 := by
    intro h
    rw [h] at hlen
    simp at hlen
    omega
  let t : Tlv.UnpackedTlv :=
    { type := 127, length := info.length.toUInt16, info := info, info_length := hlen.symm }
  have hok : Tlv.tlvOk t = true := by simp [Tlv.tlvOk, t, hne]
  have htlen : t.length.toNat = info.length := hlen
  exact ⟨t, _, rfl, rfl, Tlv.packTlv_eq hok (by omega),
    Tlv.unpackTlv_packTlv (show (127 : UInt8).toNat < 128 by decide) (by omega) _⟩

theorem length_flatMap_appPrio (apps : List DcbApp) :
    (apps.flatMap appPrio).length = 3 * apps.length := by
  induction apps with
  | nil => rfl
  | cons app rest ih =>
    rw [List.flatMap_cons, List.length_append, ih, List.length_cons]
    show 3 + 3 * rest.length = _
    omega

/-- What a port builds comes through to its neighbour, and the neighbour reads it back: the ETS
configuration with the tables in use, the recommendation, PFC, and the entries of the application
table. The last entry comes first, and each entry comes once. -/
theorem tlvs_come_back (ets : EtsAttrib) (own peer : PfcAttrib) (apps : List DcbApp)
    (head : List AppObj) (tables : EtsrecObj) (huse : ets.inUse = some tables)
    (htables : tables.Full) (hrecl : ets.recl.Full) (hcap : own.localPfc.pfcCap < 64)
    (hfew : apps.length ≤ 168) :
    (∃ info, bldEtscfgTlv ets = .ok info ∧ Packs info ∧ processEtscfgTlv info = .ok
      { willing := ets.cfgl.willing
        cbs := ets.cfgl.cbs
        maxTcs := ets.cfgl.maxTcs &&& 0x7
        prioMap := tables.prioMap
        tcBw := tables.tcBw
        tsaMap := tables.tsaMap }) ∧
    (Packs (bldEtsrecTlv ets) ∧ processEtsrecTlv (bldEtsrecTlv ets) = .ok ets.recl) ∧
    (Packs (bldPfcTlv own) ∧ processPfcTlv (bldPfcTlv own) peer = .ok { peer with
      remotePfc := { peer.remotePfc with
        willing := own.localPfc.willing
        mbc := own.localPfc.mbc
        pfcCap := own.localPfc.pfcCap &&& 0x0F
        pfcEnable := own.announcedEnable }
      remoteParam := true }) ∧
    (∃ info head', bldAppTlv (some apps) = some info ∧ Packs info ∧
      processAppTlv info head = .ok head' ∧
      (∀ app, appRow head' app =
        if app ∈ apps.map onWire then
          some { (appRow head app).getD (announcedRow app) with hw := .set }
        else (appRow head app).map resetRow) ∧
      (head = [] → head' = (apps.map onWire).reverse.dedup.map announcedRow)) ∧
    ∀ app : DcbApp, app.priority < 8 → app.selector < 8 → onWire app = app := by
  refine ⟨?_, ⟨?_, processEtsrecTlv_bldEtsrecTlv hrecl⟩, ⟨?_, processPfcTlv_eq hcap peer⟩, ?_,
    fun app => onWire_of_fits⟩
  · obtain ⟨info, hbuilt, hlen, hread⟩ := processEtscfgTlv_bldEtscfgTlv huse htables
    exact ⟨info, hbuilt, packs_of_length _ (by omega) (by omega), hread⟩
  · have hlen := length_etsInfo ieee8021qazEtsrecTlv 0 hrecl
    exact packs_of_length _ (hlen.symm ▸ by decide) (hlen.symm ▸ by decide)
  · have hlen : (bldPfcTlv own).length = 6 := rfl
    exact packs_of_length _ (by omega) (by omega)
  · have hlen : (tlvHeader ieee8021qazAppTlv ++ [0] ++ apps.flatMap appPrio).length =
        5 + 3 * apps.length := by
      rw [List.length_append, length_flatMap_appPrio]
      rfl
    have hpacks := packs_of_length (tlvHeader ieee8021qazAppTlv ++ [0] ++ apps.flatMap appPrio)
      (by omega) (by omega)
    refine ⟨_, _, rfl, hpacks, processAppTlv_bldAppTlv apps head, fun app => ?_, ?_⟩
    · rw [appRow_foldl_peerApp, appRow_appReset]
      by_cases hmem : app ∈ apps.map onWire
      · rw [if_pos hmem, if_pos hmem]
        cases appRow head app with
        | none => rfl
        | some np =>
          simp only [Option.map_some, Option.getD_some, resetRow]
          split_ifs <;> rfl
      · rw [if_neg hmem, if_neg hmem]
    · rintro rfl
      exact foldl_peerApp_nil (apps.map onWire)

/-- FCoE at priority 3 and iSCSI at priority 4 -/
def storageApps : List DcbApp :=
  [{ selector := 1, priority := 3, protocol := 0x8906 },
    { selector := 2, priority := 4, protocol := 3260 }]

/-- The neighbour has the two entries the other way round. -/
theorem entries_turned_round : ¬ ∀ (apps : List DcbApp) (info : Bytes) (head' : List AppObj),
    bldAppTlv (some apps) = some info → processAppTlv info [] = .ok head' →
      head'.map (·.app) = apps := by
  intro h
  have hturned := h storageApps _ _ rfl rfl
  revert hturned
  decide

theorem storage_comes_back :
    (∃ info, bldEtscfgTlv {} = .ok info ∧ Packs info ∧
      processEtscfgTlv info = .ok { willing := false, cbs := false }) ∧
    (∃ info head', bldAppTlv (some storageApps) = some info ∧ Packs info ∧
      processAppTlv info [] = .ok head' ∧
      head' = (storageApps.map onWire).reverse.dedup.map announcedRow) := by
  obtain ⟨hets, -, -, ⟨info, head', hbuilt, hpacks, hread, -, hfresh⟩, -⟩ :=
    tlvs_come_back {} {} {} storageApps [] {} rfl ⟨rfl, rfl⟩ ⟨rfl, rfl⟩ (by decide) (by decide)
  exact ⟨hets, info, head', hbuilt, hpacks, hread, hfresh rfl⟩

end Lldpad.Qaz
