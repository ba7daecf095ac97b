import Lldpad.Lldp.Basman
import Lldpad.Proofs.Lldp.MandBytes
import Mathlib.Data.List.GetD

/-!
# `Lldpad.Proofs.Lldp.ConfigStrings`: configured strings inside their buffers

Five TLVs are built from strings of the configuration: three texts, the management address and the
location of LLDP-MED. `StringsInside` says that each build returns, and what a TLV then has of its
string. `stringsInside_iff` is the exact condition (`StringsFit`). It fails

* for a string that fills its array: there is no NUL, and its length is looked for behind the array;
* for an IPv6 address that cannot be read, on an interface without one: `get_ipaddr6` succeeds and
  leaves what is on the stack;
* for a location whose digits are odd in number, or do not cover the header. Half the length is
  rounded down, and the format may come from the stack.

Where the strings fit, `basman_gettlv` packs what was built, one TLV after the other
(`basmanGettlv_of_fits`).
-/

namespace Lldpad.Basman

open Lldpad.Lib
open Lldpad.Dcbx (hexBytes)
open Lldpad.Lldp (Bytes)
open Lldpad.Mand (Packable packedBytes packBlock_eq length_packedBytes length_packedBytes_le)

theorem string_strncpy (s : CStr) (size : Nat) :
    (strncpy s size).string = if s.length < size then .ok s else .error .outOfBounds := by
  by_cases h : s.length < size
  · have htake : s.take size = s := List.take_of_length_le (Nat.le_of_lt h)
    simp [strncpy, CharArray.string, h, htake]
  · simp [strncpy, CharArray.string, h]

/-- The strings that a build looks at fit an array of `size` characters. -/
def Fits (value : Option CStr) (size : Nat) : Prop := ∀ s, value = some s → s.length < size

/-! ### Texts -/

/-- The build of a text returns, and the TLV has the first characters of the string, 255 of them
at most. -/
def TextInside (value : Option CStr) (r : Except Fault (Option Desc)) : Prop :=
  ∃ tlv, r = .ok tlv ∧ ∀ s desc, value = some s → tlv = some desc →
    desc.info <+: textBytes s ∧ desc.info.length ≤ 255

theorem textInside_iff {t : BasmanTlv} {cfg : BasmanConfig} {built : CStr} :
    TextInside (cfg.info t) (bldTextTlv t cfg built) ↔
      (cfg.txEnabled t = true → Fits (cfg.info t) descSize) := by
  unfold bldTextTlv
  cases hen : cfg.txEnabled t with
  | false =>
    refine iff_of_true ⟨none, rfl, ?_⟩ nofun
    intro s desc _ htlv
    cases htlv
  | true =>
    rw [if_neg (by decide)]
    cases hinfo : cfg.info t with
    | none =>
      refine iff_of_true ⟨_, rfl, ?_⟩ fun _ => nofun
      intro s desc hs
      cases hs
    | some s =>
      show TextInside (some s) (do
        let desc ← (strncpy s descSize).string
        pure (some (Desc.ofText desc))) ↔ _
      rw [string_strncpy]
      by_cases hfits : s.length < descSize
      · refine iff_of_true ⟨some (Desc.ofText s), ?_, ?_⟩ fun _ s' hs' => ?_
        · rw [if_pos hfits]
          rfl
        · rintro s' desc ⟨⟩ ⟨⟩
          refine ⟨?_, Desc.le _⟩
          show textBytes (s.take (descSize - 1)) <+: textBytes s
          rw [textBytes, textBytes, List.map_take]
          exact List.take_prefix ..
        · cases hs'
          exact hfits
      · refine iff_of_false ?_ fun h => hfits (h rfl s rfl)
        rintro ⟨tlv, htlv, -⟩
        rw [if_neg hfits] at htlv
        cases htlv

/-! ### The management address -/

section Address

variable (inet : Inet) (cfg : BasmanConfig) (sys : SysInfo)

/-- The address of the interface -/
def interfaceAddr : (sub : Masub) → Option (Vector UInt8 sub.size)
  | .ipv4 => sys.ipaddr
  | .ipv6 => sys.ifaddrs.join
  | .all802 => sys.mac

/-- An address that a string was configured for is that of the string, or else of the interface. -/
def Origin (m : Maddr) : Prop :=
  ∀ s, cfg.maddr m.sub = some s →
    str2addr inet m.sub s = some m.a ∨ interfaceAddr sys m.sub = some m.a

/-- The build of the management address returns, and the address has an origin. -/
def ManaddrInside : Prop :=
  ∃ r, basmanBldManaddrTlv inet cfg sys = .ok r ∧ ∀ m, r.2.1 = some m → Origin inet cfg sys m

/-- There is an address: the string can be read, or `get_addr` succeeds. -/
def Answers (sub : Masub) : Prop :=
  (∃ s, cfg.maddr sub = some s ∧ (str2addr inet sub s).isSome) ∨ (getAddr sys sub).isSome

/-- `get_ipaddr6` is not asked in vain: where a configured address cannot be read, the interface has
one. -/
def Defined (sub : Masub) : Prop :=
  sub = .ipv6 → ∀ s, cfg.maddr sub = some s → str2addr inet sub s = none →
    sys.ifaddrs ≠ some none

/-- What `basman_get_manaddr_sub` has for a string that fits -/
def subAnswer (sub : Masub) : Option (Maddr × CStr) :=
  match (cfg.maddr sub).bind fun s => (str2addr inet sub s).map fun a => (⟨sub, a⟩, s) with
  | some r => some r
  | none => (getAddr sys sub).map fun a => (⟨sub, a⟩, addr2str inet sub a)

variable {inet cfg sys}

theorem basmanGetManaddrSub_of_fits {sub : Masub} (h : Fits (cfg.maddr sub) maddrSize) :
    basmanGetManaddrSub inet cfg sys sub = .ok (subAnswer inet cfg sys sub) := by
  unfold basmanGetManaddrSub subAnswer
  cases hs : cfg.maddr sub with
  | none => rfl
  | some s =>
    simp only [getConfigTlvfieldStr, Option.map_some, string_strncpy, if_pos (h s hs), bind_ok,
      pure_eq_ok, Option.bind_some]
    cases str2addr inet sub s with
    | none => rfl
    | some a => rfl

theorem basmanGetManaddrSub_of_not_fits {sub : Masub} (h : ¬Fits (cfg.maddr sub) maddrSize) :
    basmanGetManaddrSub inet cfg sys sub = .error .outOfBounds := by
  unfold basmanGetManaddrSub
  cases hs : cfg.maddr sub with
  | none =>
    rw [hs] at h
    exact absurd nofun h
  | some s =>
    have hlong : ¬s.length < maddrSize := by
      intro hlt
      refine h fun s' hs' => ?_
      cases hs.symm.trans hs'
      exact hlt
    simp only [getConfigTlvfieldStr, Option.map_some, string_strncpy, if_neg hlong, bind_error]

theorem answers_iff (sub : Masub) :
    Answers inet cfg sys sub ↔ ∃ r, subAnswer inet cfg sys sub = some r := by
  unfold Answers subAnswer
  cases hs : cfg.maddr sub with
  | none => cases hget : getAddr sys sub <;> simp
  | some s =>
    cases hread : str2addr inet sub s with
    | none => cases hget : getAddr sys sub <;> simp [hread]
    | some a => simp [hread]

theorem subAnswer_eq_none {sub : Masub} :
    subAnswer inet cfg sys sub = none ↔ ¬Answers inet cfg sys sub := by
  rw [answers_iff]
  cases subAnswer inet cfg sys sub <;> simp

/-- The address that is found has an origin, unless it comes from the stack. -/
theorem origin_iff {sub : Masub} {r : Maddr × CStr} (h : subAnswer inet cfg sys sub = some r) :
    Origin inet cfg sys r.1 ↔ Defined inet cfg sys sub := by
  unfold subAnswer at h
  cases hs : cfg.maddr sub with
  | none =>
    rw [hs] at h
    obtain ⟨a, -, rfl⟩ := Option.map_eq_some_iff.mp h
    refine iff_of_true (fun s hs' => ?_) fun _ s hs' => ?_
    · cases hs.symm.trans hs'
    · cases hs.symm.trans hs'
  | some s =>
    rw [hs, Option.bind_some] at h
    cases hread : str2addr inet sub s with
    | some a =>
      rw [hread] at h
      cases h
      refine iff_of_true (fun s' hs' => .inl ?_) fun _ s' hs' hnone => ?_
      · cases hs.symm.trans hs'
        exact hread
      · cases hs.symm.trans hs'
        cases hread.symm.trans hnone
    | none =>
      rw [hread] at h
      obtain ⟨a, hget, rfl⟩ := Option.map_eq_some_iff.mp h
      have horigin : Origin inet cfg sys ⟨sub, a⟩ ↔ interfaceAddr sys sub = some a := by
        refine ⟨fun ho => (ho s hs).resolve_left fun hc => ?_, fun ha s' _ => .inr ha⟩
        cases hread.symm.trans hc
      rw [horigin]
      -- only `get_ipaddr6` says more than it knows
      cases sub with
      | ipv4 | all802 => exact iff_of_true hget nofun
      | ipv6 =>
        obtain ⟨found, hifaddrs, ha⟩ := Option.map_eq_some_iff.mp hget
        show sys.ifaddrs.join = some a ↔ _
        cases found with
        | none =>
          refine iff_of_false ?_ fun hd => hd rfl s hs hread hifaddrs
          rw [hifaddrs]
          nofun
        | some b =>
          refine iff_of_true ?_ fun _ _ _ _ hc => ?_
          · rw [hifaddrs]
            exact congrArg some ha
          · cases hifaddrs.symm.trans hc

/-- The kinds of addresses in turn, until there is an address -/
def firstManaddr (inet : Inet) (cfg : BasmanConfig) (sys : SysInfo) :
    List Masub → Except Fault (Option (Maddr × CStr))
  | [] => .ok none
  | sub :: subs => do
    match ← basmanGetManaddrSub inet cfg sys sub with
    | some r => pure (some r)
    | none => firstManaddr inet cfg sys subs

/-- The strings that are looked at fit, and no address comes from the stack. A kind that has an
address is the last one. -/
def TriesFit (inet : Inet) (cfg : BasmanConfig) (sys : SysInfo) : List Masub → Prop
  | [] => True
  | sub :: subs =>
    Fits (cfg.maddr sub) maddrSize ∧ Defined inet cfg sys sub ∧
      (¬Answers inet cfg sys sub → TriesFit inet cfg sys subs)

theorem firstManaddr_iff (subs : List Masub) :
    (∃ r, firstManaddr inet cfg sys subs = .ok r ∧ ∀ x, r = some x → Origin inet cfg sys x.1) ↔
      TriesFit inet cfg sys subs := by
  induction subs with
  | nil => exact iff_of_true ⟨none, rfl, nofun⟩ trivial
  | cons sub subs ih =>
    by_cases hfits : Fits (cfg.maddr sub) maddrSize
    · have hget : basmanGetManaddrSub inet cfg sys sub = .ok (subAnswer inet cfg sys sub) :=
        basmanGetManaddrSub_of_fits hfits
      cases hr : subAnswer inet cfg sys sub with
      | some x =>
        have hans := (answers_iff sub).mpr ⟨x, hr⟩
        have hrun : firstManaddr inet cfg sys (sub :: subs) = .ok (some x) := by
          rw [firstManaddr, hget, hr]
          rfl
        rw [hrun]
        constructor
        · rintro ⟨r, hr', horigin⟩
          cases hr'
          exact ⟨hfits, (origin_iff hr).mp (horigin x rfl), fun hno => absurd hans hno⟩
        · intro h
          refine ⟨some x, rfl, fun y hy => ?_⟩
          cases hy
          exact (origin_iff hr).mpr h.2.1
      | none =>
        have hno := subAnswer_eq_none.mp hr
        have hrun : firstManaddr inet cfg sys (sub :: subs) = firstManaddr inet cfg sys subs := by
          rw [firstManaddr, hget, hr]
          rfl
        -- `getifaddrs` failed, so nothing came from the stack
        have hdefined : Defined inet cfg sys sub := by
          rintro rfl s - - hifaddrs
          refine hno (.inr ?_)
          show (sys.ifaddrs.map _).isSome = true
          rw [hifaddrs]
          rfl
        rw [hrun, ih]
        exact ⟨fun h => ⟨hfits, hdefined, fun _ => h⟩, fun h => h.2.2 hno⟩
    · refine iff_of_false ?_ fun h => hfits h.1
      rintro ⟨r, hr, -⟩
      rw [firstManaddr, basmanGetManaddrSub_of_not_fits hfits] at hr
      cases hr

theorem basmanBldManaddrTlv_map (hen : cfg.txEnabled .managementAddress = true) :
    (basmanBldManaddrTlv inet cfg sys).map (fun r => r.2.1) =
      (firstManaddr inet cfg sys [.ipv4, .ipv6, .all802]).map (Option.map (·.1)) := by
  unfold basmanBldManaddrTlv
  rw [if_neg (by simp [hen])]
  simp only [firstManaddr]
  cases basmanGetManaddrSub inet cfg sys .ipv4 with
  | error f => rfl
  | ok r4 =>
    cases r4 with
    | some r => rfl
    | none =>
      cases basmanGetManaddrSub inet cfg sys .ipv6 with
      | error f => rfl
      | ok r6 =>
        cases r6 with
        | some r => rfl
        | none =>
          cases basmanGetManaddrSub inet cfg sys .all802 with
          | error f => rfl
          | ok rm => cases rm <;> rfl

/-- The condition of the management address -/
def ManaddrFits (inet : Inet) (cfg : BasmanConfig) (sys : SysInfo) : Prop :=
  cfg.txEnabled .managementAddress = true → TriesFit inet cfg sys [.ipv4, .ipv6, .all802]

theorem manaddrInside_iff : ManaddrInside inet cfg sys ↔ ManaddrFits inet cfg sys := by
  cases hen : cfg.txEnabled .managementAddress with
  | false =>
    refine iff_of_true ⟨_, if_pos hen, nofun⟩ fun h => ?_
    cases hen.symm.trans h
  | true =>
    have hmap : (basmanBldManaddrTlv inet cfg sys).map (fun r => r.2.1) =
        (firstManaddr inet cfg sys [.ipv4, .ipv6, .all802]).map (Option.map (·.1)) :=
      basmanBldManaddrTlv_map hen
    have hfits : ManaddrFits inet cfg sys ↔ TriesFit inet cfg sys [.ipv4, .ipv6, .all802] :=
      ⟨fun h => h hen, fun h _ => h⟩
    rw [hfits, ← firstManaddr_iff]
    unfold ManaddrInside
    cases hbld : basmanBldManaddrTlv inet cfg sys with
    | error f =>
      cases hfirst : firstManaddr inet cfg sys [.ipv4, .ipv6, .all802] with
      | error f' => exact iff_of_false (by simp) (by simp)
      | ok first =>
        rw [hbld, hfirst] at hmap
        cases hmap
    | ok r =>
      cases hfirst : firstManaddr inet cfg sys [.ipv4, .ipv6, .all802] with
      | error f' =>
        rw [hbld, hfirst] at hmap
        cases hmap
      | ok first =>
        rw [hbld, hfirst] at hmap
        have haddr : r.2.1 = first.map (·.1) := Except.ok.inj hmap
        simp [haddr]

end Address

/-! ### The location -/

section Location

variable {txEnabled : Bool} {value : Option CStr} {s : CStr} {bytes : Bytes}

/-- The build of the location returns, whatever is on the stack. A TLV has the bytes of the string,
which is an even number of digits and covers the header. -/
def LocidInside (txEnabled : Bool) (value : Option CStr) : Prop :=
  ∀ stack, ∃ r, medBldLocidTlv txEnabled value stack = .ok r ∧
    ∀ s info, value = some s → r = some info →
      s.length % 2 = 0 ∧ 2 * locidHeader ≤ s.length ∧ info.length ≤ locidSize ∧
        hexBytes (s.length / 2) s = some info

/-- The string fits, and when the pairs of its characters are bytes, then they are even in number
and cover the header, or they cover the header and have an invalid format there. -/
def LocidFits (txEnabled : Bool) (value : Option CStr) : Prop :=
  txEnabled = true → ∀ s, value = some s → s.length < locidSize * 2 + 1 ∧
    ∀ bytes, hexBytes (s.length / 2) s = some bytes →
      2 * locidHeader ≤ s.length ∧
        (s.length % 2 = 0 ∨ locidFormatInvalid (bytes.getD (locidHeader - 1) 0) = true)

theorem length_hexBytes (n : Nat) : ∀ {s : CStr} {bytes : Bytes},
    hexBytes n s = some bytes → bytes.length = n := by
  induction n with
  | zero =>
    rintro s bytes ⟨⟩
    rfl
  | succ n ih =>
    intro s bytes h
    match s with
    | [] | [_] => cases h
    | a :: b :: s =>
      simp only [hexBytes, Option.bind_eq_bind, Option.bind_eq_some_iff] at h
      obtain ⟨x, -, xs, hxs, ⟨⟩⟩ := h
      exact congrArg Nat.succ (ih hxs)

theorem medBldLocidTlv_of_bytes (hfits : s.length < locidSize * 2 + 1)
    (hbytes : hexBytes (s.length / 2) s = some bytes) (stack : Vector UInt8 locidSize) :
    medBldLocidTlv true (some s) stack =
      .ok (if locidFormatInvalid
          ((bytes ++ stack.toList.drop (s.length / 2)).getD (locidHeader - 1) 0) = true then none
        else some bytes) := by
  have htake : (bytes ++ stack.toList.drop (s.length / 2)).take (s.length / 2) = bytes :=
    List.take_left' (length_hexBytes _ hbytes)
  unfold medBldLocidTlv
  simp only [getConfigTlvfieldStr, Option.map_some, string_strncpy, if_pos hfits, bind_ok, hbytes,
    htake]
  rw [if_neg (by decide)]
  split <;> rfl

theorem format_of_short (hlen : bytes.length < locidHeader) :
    (bytes ++ (Vector.replicate locidSize (1 : UInt8)).toList.drop bytes.length).getD
      (locidHeader - 1) 0 = 1 := by
  have hlen' : bytes.length ≤ locidHeader - 1 := by
    omega
  have hlt : locidHeader - 1 - bytes.length < locidSize - bytes.length := by
    unfold locidHeader locidSize at *
    omega
  rw [List.getD_append_right _ _ _ _ hlen', Vector.toList_replicate, List.drop_replicate]
  simp [hlt]

theorem format_of_covered (hlen : locidHeader ≤ bytes.length) (rest : Bytes) :
    (bytes ++ rest).getD (locidHeader - 1) 0 = bytes.getD (locidHeader - 1) 0 :=
  List.getD_append _ _ _ _ (by unfold locidHeader at *; omega)

theorem locidInside_iff : LocidInside txEnabled value ↔ LocidFits txEnabled value := by
  cases hen : txEnabled with
  | false =>
    refine iff_of_true (fun stack => ⟨none, rfl, nofun⟩) nofun
  | true =>
    cases hvalue : value with
    | none =>
      refine iff_of_true (fun stack => ⟨none, rfl, nofun⟩) fun _ => nofun
    | some s =>
      by_cases hfits : s.length < locidSize * 2 + 1
      swap
      · refine iff_of_false (fun h => ?_) fun h => hfits (h rfl s rfl).1
        obtain ⟨r, hr, -⟩ := h (Vector.replicate locidSize 0)
        simp only [medBldLocidTlv, getConfigTlvfieldStr, Option.map_some, string_strncpy,
          if_neg hfits, bind_error] at hr
        cases hr
      cases hbytes : hexBytes (s.length / 2) s with
      | none =>
        refine iff_of_true (fun stack => ⟨none, ?_, nofun⟩) fun _ s' hs' => ?_
        · unfold medBldLocidTlv
          simp only [getConfigTlvfieldStr, Option.map_some, string_strncpy, if_pos hfits, bind_ok,
            hbytes]
          rfl
        · cases hs'
          exact ⟨hfits, fun bytes hb => by cases hbytes.symm.trans hb⟩
      | some bytes =>
        have hlen := length_hexBytes _ hbytes
        have hrun := medBldLocidTlv_of_bytes hfits hbytes
        by_cases hcover : locidHeader ≤ bytes.length
        · -- the format is in the string
          have hlong : 2 * locidHeader ≤ s.length := by omega
          constructor
          · intro h _ s' hs'
            cases hs'
            refine ⟨hfits, fun bytes' hb => ⟨hlong, ?_⟩⟩
            cases hbytes.symm.trans hb
            refine or_iff_not_imp_right.mpr fun hvalid => ?_
            obtain ⟨r, hr, hinside⟩ := h (Vector.replicate locidSize 0)
            rw [hrun, format_of_covered hcover, if_neg hvalid] at hr
            cases hr
            exact (hinside s bytes rfl rfl).1
          · intro h stack
            refine ⟨_, hrun stack, ?_⟩
            rintro s' info ⟨⟩ hinfo
            rw [format_of_covered hcover] at hinfo
            split at hinfo
            · cases hinfo
            · next hvalid =>
              cases hinfo
              refine ⟨((h rfl s rfl).2 bytes hbytes).2.resolve_right hvalid, hlong, ?_, hbytes⟩
              omega
        · -- the format is on the stack, and may be valid there
          have hshort : ¬2 * locidHeader ≤ s.length := by omega
          refine iff_of_false (fun h => ?_) fun h => hshort ((h rfl s rfl).2 bytes hbytes).1
          obtain ⟨r, hr, hinside⟩ := h (Vector.replicate locidSize 1)
          rw [hrun, ← hlen, format_of_short (by omega), if_neg (by decide)] at hr
          cases hr
          exact hshort (hinside s bytes rfl rfl).2.1

end Location

/-! ### All strings -/

section All

variable (inet : Inet) (cfg : BasmanConfig) (sys : SysInfo) (medTx : Bool) (locid : Option CStr)

/-- The configured strings are used inside their buffers. `medTx` and `locid` are the configuration
of the location. -/
structure StringsInside : Prop where
  portdesc : TextInside (cfg.info .portDescription) (basmanBldPortdescTlv cfg sys)
  sysname : TextInside (cfg.info .systemName) (basmanBldSysnameTlv cfg sys)
  sysdesc : TextInside (cfg.info .systemDescription) (basmanBldSysdescTlv cfg sys)
  manaddr : ManaddrInside inet cfg sys
  locid : LocidInside medTx locid

/-- The TLVs that are texts -/
def textTlvs : List BasmanTlv := [.portDescription, .systemName, .systemDescription]

/-- The condition, for the TLVs that are sent -/
structure StringsFit : Prop where
  texts : ∀ t ∈ textTlvs, cfg.txEnabled t = true → Fits (cfg.info t) descSize
  manaddr : ManaddrFits inet cfg sys
  locid : LocidFits medTx locid

variable {inet cfg sys medTx locid}

/-- The strings are used inside their buffers exactly when they fit. -/
theorem stringsInside_iff :
    StringsInside inet cfg sys medTx locid ↔ StringsFit inet cfg sys medTx locid := by
  constructor
  · intro h
    refine ⟨?_, manaddrInside_iff.mp h.manaddr, locidInside_iff.mp h.locid⟩
    intro t ht
    simp only [textTlvs, List.mem_cons, List.not_mem_nil, or_false] at ht
    obtain rfl | rfl | rfl := ht
    · exact textInside_iff.mp h.portdesc
    · exact textInside_iff.mp h.sysname
    · exact textInside_iff.mp h.sysdesc
  · intro h
    exact ⟨textInside_iff.mpr (h.texts _ (by decide)), textInside_iff.mpr (h.texts _ (by decide)),
      textInside_iff.mpr (h.texts _ (by decide)), manaddrInside_iff.mpr h.manaddr,
      locidInside_iff.mpr h.locid⟩

end All

/-! ### What is sent -/

/-- No text is empty: an empty TLV cannot be packed. -/
def BasmanData.Filled (bd : BasmanData) : Prop :=
  ∀ desc, some desc ∈ [bd.portdesc, bd.sysname, bd.sysdesc] → desc.info ≠ []

section Sent

variable {inet : Inet} {cfg cfg' : BasmanConfig} {sys : SysInfo} {bd : BasmanData} {ok : Bool}

theorem packable_descTlv (t : BasmanTlv) {desc : Desc} (h : desc.info ≠ []) :
    Packable (descTlv t desc) := by
  have hlength : (descTlv t desc).length.toNat = desc.info.length :=
    (descTlv t desc).info_length.symm
  exact ⟨hlength ▸ List.length_pos_iff.mpr h, hlength ▸ Nat.le_succ_of_le desc.le⟩

theorem packable_manaddrTlv (ifindex : UInt32) (m : Maddr) : Packable (manaddrTlv ifindex m) := by
  obtain ⟨sub, a⟩ := m
  cases sub with
  | ipv4 => exact ⟨show 0 < 12 by omega, show 12 ≤ 256 by omega⟩
  | ipv6 => exact ⟨show 0 < 24 by omega, show 24 ≤ 256 by omega⟩
  | all802 => exact ⟨show 0 < 14 by omega, show 14 ≤ 256 by omega⟩

theorem packable_basmanTlvs (ifindex : UInt32) (h : bd.Filled) :
    ∀ t, some t ∈ basmanTlvs ifindex bd → Packable t := by
  intro t ht
  unfold basmanTlvs at ht
  simp only [List.mem_cons, List.not_mem_nil, or_false, eq_comm (a := some t),
    Option.map_eq_some_iff] at ht
  rcases ht with ⟨desc, hd, rfl⟩ | ⟨desc, hd, rfl⟩ | ⟨desc, hd, rfl⟩ | ⟨caps, -, rfl⟩ |
    ⟨m, -, rfl⟩
  · exact packable_descTlv _ (h desc (by simp [hd]))
  · exact packable_descTlv _ (h desc (by simp [hd]))
  · exact packable_descTlv _ (h desc (by simp [hd]))
  · exact ⟨show 0 < 4 by omega, show 4 ≤ 256 by omega⟩
  · exact packable_manaddrTlv ifindex m

/-- What was built is packed, one TLV after the other. -/
theorem basmanGettlv_eq (hbld : basmanBldTlv inet cfg sys = .ok (ok, bd, cfg'))
    (hfilled : bd.Filled) :
    basmanGettlv inet cfg sys =
      .ok (if ok = true ∧ packedBytes (basmanTlvs sys.ifindex bd) ≠ [] then
        some (packedBytes (basmanTlvs sys.ifindex bd)) else none, cfg') := by
  have hpack := packable_basmanTlvs sys.ifindex hfilled
  have hlength := length_packedBytes (basmanTlvs sys.ifindex bd)
  have hle : (packedBytes (basmanTlvs sys.ifindex bd)).length ≤ 5 * 258 :=
    length_packedBytes_le _ hpack
  unfold basmanGettlv
  rw [hbld, bind_ok]
  dsimp only
  by_cases hsend : ok = true ∧ packedBytes (basmanTlvs sys.ifindex bd) ≠ []
  · have hpos := List.length_pos_iff.mpr hsend.2
    obtain ⟨ptlv, hptlv, hbytes⟩ := bind_eq_ok.mp (packBlock_eq hpack (by omega) rfl)
    have hsome : ¬(ok = false ∨ ((basmanTlvs sys.ifindex bd).map Mand.tlvSize).sum = 0) := by
      rintro (hfailed | hzero)
      · rw [hsend.1] at hfailed
        cases hfailed
      · omega
    have hpacked : ptlv.map (fun ptlv => ptlv.tlv.take ptlv.size.toNat) =
        some (packedBytes (basmanTlvs sys.ifindex bd)) := Except.ok.inj hbytes
    rw [if_pos hsend, if_neg hsome, hptlv, bind_ok, hpacked]
    rfl
  · have hnone : ok = false ∨
        ((basmanTlvs sys.ifindex bd).map Mand.tlvSize).sum = 0 := by
      rw [← hlength, List.length_eq_zero_iff, ← Bool.not_eq_true]
      exact (not_and_or.mp hsend).imp_right not_not.mp
    rw [if_neg hsend, if_pos hnone]
    rfl

/-- Where the strings fit the TLVs are built, and what was built is sent. -/
theorem basmanGettlv_of_fits {medTx : Bool} {locid : Option CStr}
    (h : StringsFit inet cfg sys medTx locid) :
    ∃ ok bd cfg', basmanBldTlv inet cfg sys = .ok (ok, bd, cfg') ∧ (bd.Filled →
      basmanGettlv inet cfg sys =
        .ok (if ok = true ∧ packedBytes (basmanTlvs sys.ifindex bd) ≠ [] then
          some (packedBytes (basmanTlvs sys.ifindex bd)) else none, cfg')) := by
  obtain ⟨⟨portdesc, hportdesc, -⟩, ⟨sysname, hsysname, -⟩, ⟨sysdesc, hsysdesc, -⟩,
    ⟨⟨found, manaddr, cfg'⟩, hmanaddr, -⟩, -⟩ := stringsInside_iff.mpr h
  by_cases hport : sys.port = false
  · have hbld : basmanBldTlv inet cfg sys = .ok (false, {}, cfg) := if_pos hport
    exact ⟨_, _, _, hbld, basmanGettlv_eq hbld⟩
  · have hbld : basmanBldTlv inet cfg sys = .ok (found,
        { portdesc, sysname, sysdesc, syscaps := basmanBldSyscapsTlv cfg sys, manaddr }, cfg') := by
      unfold basmanBldTlv
      rw [if_neg hport, hportdesc, bind_ok, hsysname, bind_ok, hsysdesc, bind_ok]
      rw [hmanaddr]
      rfl
    exact ⟨_, _, _, hbld, basmanGettlv_eq hbld⟩

end Sent

/-- A system that answers nothing -/
def silentSystem : SysInfo where
  port := true
  ifname := "eth0".toList
  ifindex := 2
  uname := none
  caps := 128
  active := false
  ipaddr := none
  ifaddrs := none
  stack := Vector.replicate 16 0
  mac := none

/-- No text is an address. -/
def noInet : Inet where
  pton4 _ := none
  pton6 _ := none
  ntop4 _ := []
  ntop6 _ := []

/-- A port description of 256 characters -/
def longDescription : BasmanConfig where
  txEnabled := (· = .portDescription)
  info t := if t = .portDescription then some (List.replicate 256 'a') else none
  maddr _ := none

/-- A port description of 256 characters is read behind its array. -/
theorem not_stringsInside : ¬StringsInside noInet longDescription silentSystem false none := by
  intro h
  have hlt := textInside_iff.mp h.portdesc rfl _ rfl
  rw [List.length_replicate] at hlt
  exact absurd hlt (by decide)

end Lldpad.Basman
