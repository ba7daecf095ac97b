import Lldpad.Proofs.Clif.Args
import Lldpad.Proofs.Qbg.RequestReaders

/-!
# `Lldpad.Proofs.Qbg.RequestText`: the loop over the arguments of a VSI request

`vdp22_parse_str_vdpnl` takes one argument after the other. `Inside` is when the reader of an
argument stays inside the argument and inside the list of OUI entries, and `Good` is when it takes
the argument behind those before it: filters have one format, and no MAC address twice.

`Parsed` says what the variables are behind the arguments that were taken, and `parseArg_checks`
what one turn does with the next one. `str2vdpnl_eq` has the loop in the whole parser.
-/

namespace Lldpad.Qbg

open Lldpad.Lib
open Lldpad.Clif (countArgs LenStack argValText argValSize length_argValText getArgValList_text
  getArgValList_short)

variable {δ : Type}

/-! ### The arguments of a key -/

/-- The values of a key, in order -/
def valuesOf (key : VsiKeyArg) (args : List (CStr × CStr)) : List CStr :=
  (args.filter fun a => getKeyworkVal a.1 = key).map Prod.snd

theorem valuesOf_snoc (key : VsiKeyArg) (pre : List (CStr × CStr)) (a : CStr × CStr) :
    valuesOf key (pre ++ [a]) =
      valuesOf key pre ++ if getKeyworkVal a.1 = key then [a.2] else [] := by
  unfold valuesOf
  rw [List.filter_append, List.map_append]
  split_ifs with h <;> simp [h]

theorem mem_valuesOf {key : VsiKeyArg} {args : List (CStr × CStr)} {v : CStr} :
    v ∈ valuesOf key args ↔ ∃ a ∈ args, getKeyworkVal a.1 = key ∧ a.2 = v := by
  simp [valuesOf, and_assoc]

/-! ### Readers that leave the filters alone -/

/-- A reader changes neither the filters nor their format. -/
def SameFilters (p p' : VdpnlVsi) : Prop := p'.filterFmt = p.filterFmt ∧ p'.maclist = p.maclist

theorem getmode_spec (p : VdpnlVsi) (s : CStr) :
    ((getmode p s).isSome ↔ readsMode s = true) ∧ ∀ p' ∈ getmode p s, SameFilters p p' := by
  unfold getmode readsMode
  by_cases hlen : s.length = 1
  · rw [if_pos hlen, if_pos hlen, Option.isSome_map]
    refine ⟨Iff.rfl, fun p' hp' => ?_⟩
    obtain ⟨request, -, rfl⟩ := Option.map_eq_some_iff.mp hp'
    exact ⟨rfl, rfl⟩
  · rw [if_neg hlen, if_neg hlen]
    unfold readBracket
    cases strchr '[' s with
    | none =>
      cases hword : modeWord s with
      | none => simp [hword]
      | some request => simp [hword, SameFilters]
    | some r =>
      obtain ⟨word, behind⟩ := r
      by_cases hcode : (strtol 0 behind).rest.head? = some ']'
      · cases hword : modeWord word with
        | none => simp [hcode, hword]
        | some request => simp [hcode, hword, SameFilters]
      · simp [hcode]

theorem getmgr2id_spec (p : VdpnlVsi) (s : CStr) :
    ((getmgr2id p s).isSome ↔ readsMgrid s) ∧ ∀ p' ∈ getmgr2id p s, SameFilters p p' := by
  have huuid := @vdpStr2uuid_eq_zero s p.vsiMgrid2
  unfold getmgr2id readsMgrid alnum
  rw [← huuid]
  generalize vdpStr2uuid p.vsiMgrid2 s = r
  obtain ⟨field, rc⟩ := r
  dsimp only
  split_ifs with hrc htext
  · simp [hrc, SameFilters]
  · simpa [hrc, SameFilters] using htext
  · simpa [hrc] using htext

theorem gethints_spec (p : VdpnlVsi) (s : CStr) :
    ((gethints p s).isSome ↔ hintsText s) ∧ ∀ p' ∈ gethints p s, SameFilters p p' := by
  unfold gethints hintsText
  split_ifs with hto hfrom hnone
  · simp [hto, SameFilters]
  · simp [hfrom, SameFilters]
  · simp [SameFilters, hnone]
  · simp only [not_or] at hnone
    simp [hto, hfrom, hnone]

/-- What a key other than `filter` and `oui` does -/
theorem parseValue_plain (readers : OuiReaders δ) (stale : UInt8) (s : VsiText δ)
    {a : CStr × CStr} (hfilter : getKeyworkVal a.1 ≠ .filter) (houi : getKeyworkVal a.1 ≠ .oui) :
    ∃ r : Option VdpnlVsi, parseValue readers stale s (getKeyworkVal a.1) a.2 =
        .ok (r.map fun vsi => { s with vsi }) ∧
      (r.isSome ↔ Reads readers stale a) ∧ ∀ vsi ∈ r, SameFilters s.vsi vsi := by
  unfold Reads
  revert hfilter houi
  cases getKeyworkVal a.1 with
  | mode => exact fun _ _ => ⟨_, rfl, getmode_spec s.vsi a.2⟩
  | mgrid2 => exact fun _ _ => ⟨_, rfl, getmgr2id_spec s.vsi a.2⟩
  | hints => exact fun _ _ => ⟨_, rfl, gethints_spec s.vsi a.2⟩
  | invalid => exact fun _ _ => ⟨none, rfl, by simp, nofun⟩
  | filter => exact fun h => absurd rfl h
  | oui => exact fun _ h => absurd rfl h
  | typeid =>
    intro _ _
    refine ⟨(getnumber a.2 0 0xffffff).map fun no => { s.vsi with vsiTypeid := no.toUInt64 }, ?_,
      by rw [Option.isSome_map], ?_⟩
    · rw [Option.map_map]
      rfl
    · intro vsi hvsi
      obtain ⟨no, -, rfl⟩ := Option.map_eq_some_iff.mp hvsi
      exact ⟨rfl, rfl⟩
  | typeidver =>
    intro _ _
    refine ⟨(getnumber a.2 0 0xff).map fun no => { s.vsi with vsiTypeversion := no.toUInt8 }, ?_,
      by rw [Option.isSome_map], ?_⟩
    · rw [Option.map_map]
      rfl
    · intro vsi hvsi
      obtain ⟨no, -, rfl⟩ := Option.map_eq_some_iff.mp hvsi
      exact ⟨rfl, rfl⟩
  | vsiid =>
    intro _ _
    have huuid := @vdpStr2uuid_eq_zero a.2 s.vsi.vsiUuid
    simp only [parseValue]
    rw [← huuid]
    generalize vdpStr2uuid s.vsi.vsiUuid a.2 = r
    obtain ⟨field, rc⟩ := r
    by_cases hrc : rc = 0
    · refine ⟨some { s.vsi with vsiUuid := field, vsiIdfmt := vdp22IdUuid }, ?_, by simp [hrc], ?_⟩
      · rw [if_neg (by simpa using hrc)]
        rfl
      · rintro vsi ⟨⟩
        exact ⟨rfl, rfl⟩
    · exact ⟨none, by rw [if_pos hrc]; rfl, by simp [hrc], nofun⟩

/-! ### Lists that are filled from the front -/

/-- A list of `size` entries with these first, where the others are as they were at first -/
def fillFront {β : Type} (size : Nat) (zero : β) (entries : List β) : List β :=
  entries ++ List.replicate (size - entries.length) zero

theorem length_fillFront {β : Type} {size : Nat} {zero : β} {entries : List β}
    (h : entries.length ≤ size) : (fillFront size zero entries).length = size := by
  unfold fillFront
  rw [List.length_append, List.length_replicate]
  omega

theorem fillFront_full {β : Type} {size : Nat} {zero : β} {entries : List β}
    (h : entries.length = size) : fillFront size zero entries = entries := by
  simp [fillFront, h]

theorem fillFront_eq {β : Type} {size : Nat} {zero : β} {entries : List β}
    (h : entries.length < size) :
    fillFront size zero entries =
      entries ++ zero :: List.replicate (size - (entries.length + 1)) zero := by
  unfold fillFront
  obtain ⟨k, hk⟩ : ∃ k, size - entries.length = k + 1 := ⟨size - entries.length - 1, by omega⟩
  have hnext : size - (entries.length + 1) = k := by omega
  rw [hk, hnext, List.replicate_succ]

theorem modify_fillFront {β : Type} {size : Nat} {zero : β} {entries : List β} (f : β → β)
    (h : entries.length < size) :
    (fillFront size zero entries).modify entries.length f =
      fillFront size zero (entries ++ [f zero]) := by
  have hmodify : ∀ (xs ys : List β),
      (xs ++ zero :: ys).modify xs.length f = xs ++ f zero :: ys := by
    intro xs ys
    induction xs with
    | nil => rfl
    | cons x xs ih => exact congrArg (x :: ·) ih
  rw [fillFront_eq h, hmodify]
  simp [fillFront]

theorem set_fillFront {β : Type} {size : Nat} {zero : β} {entries : List β} (e : β)
    (h : entries.length < size) :
    (fillFront size zero entries).set entries.length e = fillFront size zero (entries ++ [e]) := by
  rw [fillFront_eq h]
  simp [fillFront]

/-! ### Filters -/

/-- The filters behind which another one is read -/
def fids (size : Nat) (args : List (CStr × CStr)) : List Fid :=
  ((valuesOf .filter args).take size).filterMap readFid

/-- A filter that `getfid` appends to others: of their format, and with a MAC address that is
neither among theirs nor all zero -/
def FitsIn (f : Fid) (fs : List Fid) : Prop :=
  f.mac ≠ some .zero ∧ ∀ g ∈ fs, g.fif = f.fif ∧ (f.mac = none ∨ g.mac ≠ f.mac)

theorem fif_ne_zero (f : Fid) : f.fif ≠ 0 := by
  unfold Fid.fif
  split_ifs <;> decide

/-- A request whose list holds these filters -/
structure Holds (size : Nat) (fs : List Fid) (p : VdpnlVsi) : Prop where
  format : ∀ f ∈ fs, f.fif = p.filterFmt
  empty : fs = [] → p.filterFmt = 0
  macs : fs.Pairwise fun f g => f.mac = none ∨ g.mac ≠ f.mac
  nonzero : ∀ f ∈ fs, f.mac ≠ some .zero
  maclist : p.maclist = fillFront size {} (fs.map Fid.entry)

theorem any_mac {size : Nat} {fs : List Fid} (hroom : fs.length < size) (f : Fid) :
    ((fillFront size {} (fs.map Fid.entry)).any fun m => f.mac = some m.mac) = true ↔
      f.mac = some .zero ∨ ∃ g ∈ fs, f.mac ≠ none ∧ g.mac = f.mac := by
  rw [fillFront_eq (by rwa [List.length_map])]
  simp only [List.any_eq_true, List.mem_append, List.mem_map, List.mem_cons, List.mem_replicate,
    decide_eq_true_eq]
  constructor
  · rintro ⟨m, (⟨g, hg, rfl⟩ | rfl | ⟨-, rfl⟩), hm⟩
    · cases hmac : g.mac with
      | none =>
        refine .inl ?_
        rw [hm, Fid.entry, hmac]
        rfl
      | some mac =>
        refine .inr ⟨g, hg, by rw [hm]; nofun, ?_⟩
        rw [hm, Fid.entry, hmac]
        rfl
    · exact .inl hm
    · exact .inl hm
  · rintro (hzero | ⟨g, hg, hne, hmac⟩)
    · exact ⟨{}, .inr (.inl rfl), hzero⟩
    · obtain ⟨mac, hm⟩ := Option.ne_none_iff_exists'.mp hne
      refine ⟨g.entry, .inl ⟨g, hg, rfl⟩, ?_⟩
      rw [Fid.entry, hmac, hm]
      rfl

/-- `getfid` appends a filter that fits to the others. -/
theorem getfid_takes {size : Nat} {fs : List Fid} {p : VdpnlVsi} (h : Holds size fs p)
    (hroom : fs.length < size) {value : CStr} {f : Fid} (hread : readFid value = some f)
    (hfits : FitsIn f fs) :
    ∃ p', getfid p value fs.length = some p' ∧ Holds size (fs ++ [f]) p' := by
  have hformat : ¬(p.filterFmt ≠ 0 ∧ p.filterFmt ≠ f.fif) := by
    rintro ⟨hne, hdiff⟩
    cases fs with
    | nil => exact hne (h.empty rfl)
    | cons g fs =>
      have hg := h.format g List.mem_cons_self
      exact hdiff (hg ▸ (hfits.2 g List.mem_cons_self).1)
  have hnew : ¬(p.maclist.any fun m => f.mac = some m.mac) = true := by
    rw [h.maclist, any_mac hroom]
    rintro (hzero | ⟨g, hg, hne, hmac⟩)
    · exact hfits.1 hzero
    · exact ((hfits.2 g hg).2.resolve_left hne) hmac
  have hgetfid : getfid p value fs.length = some { p with
      filterFmt := f.fif
      maclist := p.maclist.modify fs.length fun m => { f.entry with changed := m.changed } } := by
    unfold getfid
    rw [hread, Option.bind_eq_bind, Option.bind_some, if_neg hformat, if_neg hnew]
  refine ⟨_, hgetfid, ?_, by simp, ?_, ?_, ?_⟩
  · intro g hg
    rcases List.mem_append.mp hg with hg | hg
    · exact (hfits.2 g hg).1
    · rw [List.mem_singleton.mp hg]
  · refine List.pairwise_append.mpr ⟨h.macs, List.pairwise_singleton .., fun g hg f' hf' => ?_⟩
    obtain rfl := List.mem_singleton.mp hf'
    rcases (hfits.2 g hg).2 with hnone | hne
    · rw [hnone]
      exact Classical.or_iff_not_imp_left.mpr fun hg => Ne.symm hg
    · exact .inr hne.symm
  · intro g hg
    rcases List.mem_append.mp hg with hg | hg
    · exact h.nonzero g hg
    · rw [List.mem_singleton.mp hg]
      exact hfits.1
  · have hlen : fs.length = (fs.map Fid.entry).length := (List.length_map ..).symm
    rw [h.maclist, hlen, modify_fillFront _ (by rwa [List.length_map]), List.map_append]
    rfl

theorem getfid_refuses {size : Nat} {fs : List Fid} {p : VdpnlVsi} (h : Holds size fs p)
    (hroom : fs.length < size) {value : CStr}
    (hbad : ¬∃ f, readFid value = some f ∧ FitsIn f fs) :
    getfid p value fs.length = none := by
  unfold getfid
  cases hread : readFid value with
  | none => rfl
  | some f =>
    rw [Option.bind_eq_bind, Option.bind_some]
    split_ifs with hformat hnew
    · rfl
    · rfl
    · refine absurd ⟨f, hread, ?_, fun g hg => ⟨?_, ?_⟩⟩ hbad
      · intro hzero
        exact hnew (by rw [h.maclist]; exact (any_mac hroom f).mpr (.inl hzero))
      · rw [h.format g hg]
        by_contra hdiff
        have hne : p.filterFmt ≠ 0 := h.format g hg ▸ fif_ne_zero g
        exact hformat ⟨hne, hdiff⟩
      · by_contra hsame
        simp only [not_or, not_not] at hsame
        exact hnew (by rw [h.maclist]; exact (any_mac hroom f).mpr (.inr ⟨g, hg, hsame⟩))

/-! ### OUI data -/

/-- The reader of OUI data stays inside the value and inside the list: what comes before the name,
an entry for a name that is known, and what comes behind the name when it has a reader -/
def OuiInside (readers : OuiReaders δ) (stale : UInt8) (ouiSize idx : Nat) (p : CStr) : Prop :=
  hexNat 1 p stale.toNat < vdp22OuiMaxName →
    (2 ≤ p.length ∨ hexNat 1 p stale.toNat = 0) ∧
      ∀ reader, readers ((p.drop 2).take (hexNat 1 p stale.toNat)) = some reader →
        idx < ouiSize ∧ (reader.isSome → 2 + hexNat 1 p stale.toNat ≤ p.length)

theorem ouiStr2vdpnl_stops {readers : OuiReaders δ} {stale : UInt8}
    {ouiList : List (VdpnlOuiData δ)} {p : CStr} {idx : Nat}
    (h : ¬OuiInside readers stale ouiList.length idx p) :
    ¬Returns (ouiStr2vdpnl readers stale ouiList p idx) := by
  intro hreturns
  refine h fun hlen => ?_
  unfold ouiStr2vdpnl at hreturns
  dsimp only at hreturns
  rw [if_neg (by omega)] at hreturns
  by_cases hshort : p.length < 2 ∧ hexNat 1 p stale.toNat ≠ 0
  · rw [if_pos hshort] at hreturns
    exact absurd hreturns (not_returns_error _)
  rw [if_neg hshort] at hreturns
  refine ⟨by omega, fun reader hreader => ?_⟩
  rw [hreader] at hreturns
  dsimp only at hreturns
  by_cases hidx : ouiList.length ≤ idx
  · rw [if_pos hidx] at hreturns
    exact absurd hreturns (not_returns_error _)
  rw [if_neg hidx] at hreturns
  refine ⟨by omega, fun hsome => ?_⟩
  obtain ⟨str2vdpnl, rfl⟩ := Option.isSome_iff_exists.mp hsome
  dsimp only at hreturns
  by_contra hbehind
  rw [if_pos (by omega)] at hreturns
  exact absurd hreturns (not_returns_error _)

theorem ouiStr2vdpnl_eq {readers : OuiReaders δ} {stale : UInt8}
    {ouiList : List (VdpnlOuiData δ)} {p : CStr} {idx : Nat}
    (h : OuiInside readers stale ouiList.length idx p) :
    ouiStr2vdpnl readers stale ouiList p idx =
      .ok ((readOui readers stale p).map fun d => ouiList.set idx d) := by
  unfold ouiStr2vdpnl readOui ouiEntry
  dsimp only
  by_cases hlen : vdp22OuiMaxName ≤ hexNat 1 p stale.toNat
  · rw [if_pos hlen, if_pos (.inl hlen)]
    rfl
  obtain ⟨hfront, hreader⟩ := h (by omega)
  rw [if_neg hlen, if_neg (by omega)]
  cases hread : readers ((p.drop 2).take (hexNat 1 p stale.toNat)) with
  | none => simp
  | some reader =>
    obtain ⟨hidx, hbehind⟩ := hreader reader hread
    dsimp only
    rw [if_neg (by omega)]
    cases reader with
    | none => simp
    | some str2vdpnl =>
      have hshort : ¬p.length < 2 + hexNat 1 p stale.toNat := by
        have := hbehind rfl
        omega
      dsimp only
      rw [if_neg hshort, if_neg (not_or.mpr ⟨hlen, hshort⟩)]
      cases hdata : str2vdpnl (p.drop (2 + hexNat 1 p stale.toNat)) with
      | none => simp [hdata]
      | some data => simp [hdata]

/-! ### The loop -/

/-- The OUI entries of these arguments -/
def ouis (readers : OuiReaders δ) (stale : UInt8) (args : List (CStr × CStr)) :
    List (VdpnlOuiData δ) := (valuesOf .oui args).filterMap (readOui readers stale)

/-- The reader of an argument stays inside its bounds, behind the arguments `pre`. -/
def Inside (readers : OuiReaders δ) (stale : UInt8) (ouiSize : Nat) (pre : List (CStr × CStr))
    (a : CStr × CStr) : Prop :=
  getKeyworkVal a.1 = .oui → OuiInside readers stale ouiSize (valuesOf .oui pre).length a.2

/-- An argument is taken behind the arguments `pre`. Filters are read as long as there are entries
for them. -/
def Good (readers : OuiReaders δ) (stale : UInt8) (size : Nat) (pre : List (CStr × CStr))
    (a : CStr × CStr) : Prop :=
  if getKeyworkVal a.1 = .filter then
    (valuesOf .filter pre).length < size →
      ∃ f, readFid a.2 = some f ∧ FitsIn f (fids size pre)
  else Reads readers stale a

/-- The variables of the loop, when it has taken the arguments `pre` -/
structure Parsed (readers : OuiReaders δ) (stale : UInt8) (size ouiSize : Nat)
    (pre : List (CStr × CStr)) (s : VsiText δ) : Prop where
  idx : s.idx = (valuesOf .filter pre).length
  ouiIdx : s.ouiIdx = (valuesOf .oui pre).length
  keys : ∀ i, s.numArgKeys.testBit i = true ↔ ∃ a ∈ pre, (getKeyworkVal a.1).num = i
  read : (fids size pre).length = min size (valuesOf .filter pre).length
  holds : Holds size (fids size pre) s.vsi
  readOuis : (ouis readers stale pre).length = (valuesOf .oui pre).length
  roomOuis : (valuesOf .oui pre).length ≤ ouiSize
  ouiList : s.ouiList = fillFront ouiSize {} (ouis readers stale pre)

theorem parsed_nil (readers : OuiReaders δ) (stale : UInt8) (size ouiSize : Nat) :
    Parsed readers stale size ouiSize [] (VsiText.zero δ size ouiSize) where
  idx := rfl
  ouiIdx := rfl
  keys i := by simp [VsiText.zero]
  read := by simp [fids, valuesOf]
  holds := by
    have hnil : fids size [] = [] := by simp [fids, valuesOf]
    rw [hnil]
    exact ⟨nofun, fun _ => rfl, .nil, nofun, by simp [fillFront, VsiText.zero]⟩
  readOuis := rfl
  roomOuis := Nat.zero_le _
  ouiList := rfl

section
variable {readers : OuiReaders δ} {stale : UInt8} {size ouiSize : Nat}
  {pre : List (CStr × CStr)} {a : CStr × CStr} {s : VsiText δ}

theorem keys_snoc
    (hkeys : ∀ i, s.numArgKeys.testBit i = true ↔ ∃ b ∈ pre, (getKeyworkVal b.1).num = i)
    (i : Nat) : (s.numArgKeys ||| 2 ^ (getKeyworkVal a.1).num).testBit i = true ↔
      ∃ b ∈ pre ++ [a], (getKeyworkVal b.1).num = i := by
  rw [Nat.testBit_or, Nat.testBit_two_pow, Bool.or_eq_true, hkeys, decide_eq_true_eq]
  simp only [List.mem_append, List.mem_singleton]
  constructor
  · rintro (⟨b, hb, hi⟩ | hi)
    · exact ⟨b, .inl hb, hi⟩
    · exact ⟨a, .inr rfl, hi⟩
  · rintro ⟨b, hb | rfl, hi⟩
    · exact .inl ⟨b, hb, hi⟩
    · exact .inr hi

theorem valuesOf_snoc_ne {key : VsiKeyArg} (h : getKeyworkVal a.1 ≠ key) :
    valuesOf key (pre ++ [a]) = valuesOf key pre := by
  rw [valuesOf_snoc, if_neg h, List.append_nil]

theorem valuesOf_snoc_eq {key : VsiKeyArg} (h : getKeyworkVal a.1 = key) :
    valuesOf key (pre ++ [a]) = valuesOf key pre ++ [a.2] := by
  rw [valuesOf_snoc, if_pos h]

theorem Parsed.plain (h : Parsed readers stale size ouiSize pre s)
    (hfilter : getKeyworkVal a.1 ≠ .filter) (houi : getKeyworkVal a.1 ≠ .oui) {vsi : VdpnlVsi}
    (hsame : SameFilters s.vsi vsi) :
    Parsed readers stale size ouiSize (pre ++ [a]) { s with
      vsi, numArgKeys := s.numArgKeys ||| 2 ^ (getKeyworkVal a.1).num } where
  idx := by rw [valuesOf_snoc_ne hfilter, h.idx]
  ouiIdx := by rw [valuesOf_snoc_ne houi, h.ouiIdx]
  keys := keys_snoc h.keys
  read := by
    unfold fids
    rw [valuesOf_snoc_ne hfilter]
    exact h.read
  holds := by
    unfold fids
    rw [valuesOf_snoc_ne hfilter]
    exact ⟨fun f hf => (h.holds.format f hf).trans hsame.1.symm,
      fun hnil => hsame.1.trans (h.holds.empty hnil), h.holds.macs, h.holds.nonzero,
      hsame.2.trans h.holds.maclist⟩
  readOuis := by
    unfold ouis
    rw [valuesOf_snoc_ne houi]
    exact h.readOuis
  roomOuis := by
    rw [valuesOf_snoc_ne houi]
    exact h.roomOuis
  ouiList := by
    unfold ouis
    rw [valuesOf_snoc_ne houi]
    exact h.ouiList

theorem Parsed.filter (h : Parsed readers stale size ouiSize pre s)
    (hfilter : getKeyworkVal a.1 = .filter) {vsi : VdpnlVsi}
    (hread : (fids size (pre ++ [a])).length =
      min size (valuesOf .filter (pre ++ [a])).length)
    (hholds : Holds size (fids size (pre ++ [a])) vsi) :
    Parsed readers stale size ouiSize (pre ++ [a]) { s with
      vsi, idx := s.idx + 1, numArgKeys := s.numArgKeys ||| 2 ^ (getKeyworkVal a.1).num } where
  idx := by
    rw [valuesOf_snoc_eq hfilter, List.length_append, h.idx]
    rfl
  ouiIdx := by rw [valuesOf_snoc_ne (by rw [hfilter]; nofun), h.ouiIdx]
  keys := keys_snoc h.keys
  read := hread
  holds := hholds
  readOuis := by
    unfold ouis
    rw [valuesOf_snoc_ne (by rw [hfilter]; nofun)]
    exact h.readOuis
  roomOuis := by
    rw [valuesOf_snoc_ne (by rw [hfilter]; nofun)]
    exact h.roomOuis
  ouiList := by
    unfold ouis
    rw [valuesOf_snoc_ne (by rw [hfilter]; nofun)]
    exact h.ouiList

theorem Parsed.oui (h : Parsed readers stale size ouiSize pre s)
    (houi : getKeyworkVal a.1 = .oui) {d : VdpnlOuiData δ} (hd : readOui readers stale a.2 = some d)
    (hroom : (valuesOf .oui pre).length < ouiSize) :
    Parsed readers stale size ouiSize (pre ++ [a]) { s with
      ouiList := s.ouiList.set s.ouiIdx d
      ouiIdx := s.ouiIdx + 1
      numArgKeys := s.numArgKeys ||| 2 ^ (getKeyworkVal a.1).num } := by
  have hne : getKeyworkVal a.1 ≠ .filter := by
    rw [houi]
    nofun
  have hentries : ouis readers stale (pre ++ [a]) = ouis readers stale pre ++ [d] := by
    unfold ouis
    rw [valuesOf_snoc_eq houi, List.filterMap_append]
    simp [hd]
  have hcount : (valuesOf .oui (pre ++ [a])).length = (valuesOf .oui pre).length + 1 := by
    rw [valuesOf_snoc_eq houi, List.length_append]
    rfl
  have hlen := h.readOuis
  exact {
    idx := by rw [valuesOf_snoc_ne hne, h.idx]
    ouiIdx := by rw [hcount, h.ouiIdx]
    keys := keys_snoc h.keys
    read := by
      unfold fids
      rw [valuesOf_snoc_ne hne]
      exact h.read
    holds := by
      unfold fids
      rw [valuesOf_snoc_ne hne]
      exact h.holds
    readOuis := by
      rw [hentries, hcount, List.length_append, hlen]
      rfl
    roomOuis := by
      rw [hcount]
      exact hroom
    ouiList := by
      rw [hentries, h.ouiList, h.ouiIdx, ← hlen, set_fillFront d (by omega)] }

theorem parseArg_eq {r : Option (VsiText δ)}
    (h : parseValue readers stale s (getKeyworkVal a.1) a.2 = .ok r) :
    parseArg readers stale s a = .ok (r.map fun s =>
      { s with numArgKeys := s.numArgKeys ||| 2 ^ (getKeyworkVal a.1).num }) := by
  unfold parseArg
  dsimp only
  rw [h]
  rfl

theorem Holds.length {fs : List Fid} {p : VdpnlVsi} (h : Holds size fs p)
    (hle : fs.length ≤ size) : p.maclist.length = size := by
  rw [h.maclist, length_fillFront (by rwa [List.length_map])]

theorem Parsed.length_fids_le (h : Parsed readers stale size ouiSize pre s) :
    (fids size pre).length ≤ size := by
  rw [h.read]
  exact Nat.min_le_left ..

theorem fids_snoc_of_le (hfull : size ≤ (valuesOf .filter pre).length)
    (hfilter : getKeyworkVal a.1 = .filter) : fids size (pre ++ [a]) = fids size pre := by
  unfold fids
  rw [valuesOf_snoc_eq hfilter, List.take_append_of_le_length hfull]

theorem fids_snoc_of_lt (hroom : (valuesOf .filter pre).length < size)
    (hfilter : getKeyworkVal a.1 = .filter) {f : Fid} (hf : readFid a.2 = some f) :
    fids size (pre ++ [a]) = fids size pre ++ [f] := by
  unfold fids
  have hall : (valuesOf .filter pre ++ [a.2]).length ≤ size := by
    rw [List.length_append]
    exact hroom
  rw [valuesOf_snoc_eq hfilter, List.take_of_length_le hall, List.filterMap_append,
    List.take_of_length_le (Nat.le_of_lt hroom)]
  simp [hf]

theorem parseArg_filter (h : Parsed readers stale size ouiSize pre s)
    (hfilter : getKeyworkVal a.1 = .filter) :
    (Good readers stale size pre a → ∃ t, parseArg readers stale s a = .ok (some t) ∧
      Parsed readers stale size ouiSize (pre ++ [a]) t) ∧
      (¬Good readers stale size pre a → parseArg readers stale s a = .ok none) := by
  have hlen := h.holds.length h.length_fids_le
  have hidx := h.idx
  by_cases hroom : (valuesOf .filter pre).length < size
  · have hcount : (fids size pre).length = s.idx := by
      rw [h.read, hidx]
      exact Nat.min_eq_right (Nat.le_of_lt hroom)
    have hvalue : parseValue readers stale s (getKeyworkVal a.1) a.2 =
        .ok ((getfid s.vsi a.2 (fids size pre).length).map fun vsi =>
          { s with vsi, idx := s.idx + 1 }) := by
      rw [hfilter, hcount]
      exact if_pos (by omega)
    have hgood : Good readers stale size pre a ↔
        ∃ f, readFid a.2 = some f ∧ FitsIn f (fids size pre) := by
      unfold Good
      rw [if_pos hfilter]
      exact ⟨fun hg => hg hroom, fun hf _ => hf⟩
    rw [hgood, parseArg_eq hvalue]
    constructor
    · rintro ⟨f, hf, hfits⟩
      obtain ⟨vsi, hgetfid, hholds⟩ := getfid_takes h.holds (by omega) hf hfits
      rw [hgetfid]
      have hfids := fids_snoc_of_lt hroom hfilter hf
      refine ⟨_, rfl, h.filter hfilter ?_ (hfids ▸ hholds)⟩
      rw [hfids, valuesOf_snoc_eq hfilter, List.length_append, List.length_append, hcount, hidx]
      exact (Nat.min_eq_right hroom).symm
    · intro hbad
      rw [getfid_refuses h.holds (by omega) hbad]
      rfl
  · have hvalue : parseValue readers stale s (getKeyworkVal a.1) a.2 =
        .ok (some { s with idx := s.idx + 1 }) := by
      rw [hfilter]
      exact if_neg (by omega)
    have hgood : Good readers stale size pre a := by
      unfold Good
      rw [if_pos hfilter]
      exact fun hlt => absurd hlt hroom
    have hfids := fids_snoc_of_le (Nat.le_of_not_lt hroom) hfilter
    refine ⟨fun _ => ⟨_, parseArg_eq hvalue, h.filter hfilter ?_ ?_⟩, fun hbad => absurd hgood hbad⟩
    · rw [hfids, h.read, valuesOf_snoc_eq hfilter, List.length_append]
      omega
    · rw [hfids]
      exact h.holds

theorem parseArg_plain (h : Parsed readers stale size ouiSize pre s)
    (hfilter : getKeyworkVal a.1 ≠ .filter) (houi : getKeyworkVal a.1 ≠ .oui) :
    (Good readers stale size pre a → ∃ t, parseArg readers stale s a = .ok (some t) ∧
      Parsed readers stale size ouiSize (pre ++ [a]) t) ∧
      (¬Good readers stale size pre a → parseArg readers stale s a = .ok none) := by
  obtain ⟨r, hvalue, hreads, hsame⟩ := parseValue_plain readers stale s hfilter houi
  have hgood : Good readers stale size pre a ↔ r.isSome := by
    unfold Good
    rw [if_neg hfilter, hreads]
  rw [hgood, parseArg_eq hvalue]
  cases r with
  | none => exact ⟨nofun, fun _ => rfl⟩
  | some vsi => exact ⟨fun _ => ⟨_, rfl, h.plain hfilter houi (hsame vsi rfl)⟩,
    fun hn => absurd rfl hn⟩

theorem parseArg_oui (h : Parsed readers stale size ouiSize pre s)
    (houi : getKeyworkVal a.1 = .oui)
    (hinside : OuiInside readers stale ouiSize (valuesOf .oui pre).length a.2) :
    (Good readers stale size pre a → ∃ t, parseArg readers stale s a = .ok (some t) ∧
      Parsed readers stale size ouiSize (pre ++ [a]) t) ∧
      (¬Good readers stale size pre a → parseArg readers stale s a = .ok none) := by
  have hlen : s.ouiList.length = ouiSize := by
    rw [h.ouiList, length_fillFront (by rw [h.readOuis]; exact h.roomOuis)]
  have hread : ouiStr2vdpnl readers stale s.ouiList a.2 s.ouiIdx =
      .ok ((readOui readers stale a.2).map fun d => s.ouiList.set s.ouiIdx d) :=
    ouiStr2vdpnl_eq (by rw [hlen, h.ouiIdx]; exact hinside)
  have hvalue : parseValue readers stale s (getKeyworkVal a.1) a.2 =
      .ok (((readOui readers stale a.2).map fun d => s.ouiList.set s.ouiIdx d).map fun ouiList =>
        { s with ouiList, ouiIdx := s.ouiIdx + 1 }) := by
    rw [houi]
    unfold parseValue
    rw [hread]
    rfl
  have hgood : Good readers stale size pre a ↔ (readOui readers stale a.2).isSome := by
    unfold Good Reads
    rw [if_neg (by rw [houi]; nofun), houi]
  rw [hgood, parseArg_eq hvalue]
  cases hd : readOui readers stale a.2 with
  | none => exact ⟨nofun, fun _ => rfl⟩
  | some d =>
    refine ⟨fun _ => ⟨_, rfl, h.oui houi hd ?_⟩, fun hn => absurd rfl hn⟩
    -- The data was read, so that its name is known.
    unfold readOui ouiEntry at hd
    split_ifs at hd with hbounds
    simp only [Option.bind_eq_bind, Option.bind_eq_some_iff] at hd
    obtain ⟨reader, hreader, -⟩ := hd
    exact ((hinside (by omega)).2 reader hreader).1

end

theorem parseArg_checks (readers : OuiReaders δ) (stale : UInt8) (size ouiSize : Nat) :
    Checks (parseArg readers stale) (Parsed readers stale size ouiSize)
      (Inside readers stale ouiSize) (Good readers stale size) where
  stops {pre s a} h hinside := by
    obtain ⟨houi, hinside⟩ := Classical.not_imp.mp hinside
    have hlen : s.ouiList.length = ouiSize := by
      rw [h.ouiList, length_fillFront (by rw [h.readOuis]; exact h.roomOuis)]
    rw [← hlen, ← h.ouiIdx] at hinside
    rintro ⟨r, hr⟩
    refine ouiStr2vdpnl_stops hinside ?_
    unfold parseArg at hr
    dsimp only at hr
    obtain ⟨x, hx, -⟩ := bind_eq_ok.mp hr
    rw [houi] at hx
    obtain ⟨y, hy, -⟩ := bind_eq_ok.mp hx
    exact ⟨y, hy⟩
  takes {pre s a} h hinside hgood := by
    by_cases hfilter : getKeyworkVal a.1 = .filter
    · exact (parseArg_filter h hfilter).1 hgood
    · by_cases houi : getKeyworkVal a.1 = .oui
      · exact (parseArg_oui h houi (hinside houi)).1 hgood
      · exact (parseArg_plain h hfilter houi).1 hgood
  refuses {pre s a} h hinside hgood := by
    by_cases hfilter : getKeyworkVal a.1 = .filter
    · exact (parseArg_filter h hfilter).2 hgood
    · by_cases houi : getKeyworkVal a.1 = .oui
      · exact (parseArg_oui h houi (hinside houi)).2 hgood
      · exact (parseArg_plain h hfilter houi).2 hgood

/-! ### Texts -/

section
variable {readers : OuiReaders δ} {stale : UInt8} {stack : LenStack} {args : List (CStr × CStr)}
  {size ouiSize : Nat}

theorem countArgs_pos (hall : ∀ a ∈ args, a.1.length < 256 ∧ a.2.length < 65536)
    (hne : args ≠ []) : countArgs (argValText args).length ≠ 0 := by
  rw [length_argValText hall]
  cases args with
  | nil => exact absurd rfl hne
  | cons a args =>
    have hsize : argValSize (a :: args) = 6 + a.1.length + a.2.length + argValSize args :=
      List.sum_cons ..
    rw [countArgs, if_pos (by omega)]
    exact Nat.succ_ne_zero _

theorem str2vdpnl_nil (vsi : VsiText δ) :
    str2vdpnl readers stale stack vsi (argValText []) = .ok (errEnomem, vsi) := by
  have hcount : countArgs (argValText []).length = 0 := by
    show countArgs 0 = 0
    rw [countArgs, if_neg (by decide)]
  unfold str2vdpnl vdp22ParseStrVdpnl
  rw [hcount, if_pos rfl]
  rfl

theorem str2vdpnl_short (hall : ∀ a ∈ args, a.1.length < 256 ∧ a.2.length < 65536)
    (hslots : countArgs (argValSize args) < args.length) (vsi : VsiText δ) :
    str2vdpnl readers stale stack vsi (argValText args) = .error .outOfBounds := by
  have hne : args ≠ [] := by
    rintro rfl
    exact Nat.not_lt_zero _ hslots
  unfold str2vdpnl vdp22ParseStrVdpnl
  rw [if_neg (countArgs_pos hall hne), length_argValText hall,
    getArgValList_short stack hall hne hslots]
  rfl

/-- What `vdp22_parse_str_vdpnl` makes of the loop's result -/
def parseAnswer (vsi : VsiText δ) (r : Option (VsiText δ)) : Int × VsiText δ :=
  (r.map fun vsi => (0, vsi)).getD (errEinval, vsi)

theorem str2vdpnl_eq (hall : ∀ a ∈ args, a.1.length < 256 ∧ a.2.length < 65536)
    (hne : args ≠ []) (hslots : args.length ≤ countArgs (argValSize args)) (vsi : VsiText δ) :
    str2vdpnl readers stale stack vsi (argValText args) =
      checkAll (parseArg readers stale) vsi args >>= fun r => pure (parseAnswer vsi r) := by
  have hargs : (Clif.valEntries args).filterMap (fun a =>
      a.arg.bind fun key => a.value.map fun value => (key, value)) = args := by
    simp [Clif.valEntries, List.filterMap_map]
  have hentries : Clif.valEntries args ≠ [] := by
    simpa [Clif.valEntries] using hne
  unfold str2vdpnl vdp22ParseStrVdpnl
  dsimp only
  rw [if_neg (countArgs_pos hall hne), length_argValText hall,
    getArgValList_text stack hall hslots, bind_ok, if_neg hentries, hargs]
  cases checkAll (parseArg readers stale) vsi args with
  | error e => rfl
  | ok r =>
    cases r with
    | none => rfl
    | some s =>
      simp only [bind_ok, pure_eq_ok, parseAnswer, Option.map_some, Option.getD_some]
      split_ifs <;> rfl

end

end Lldpad.Qbg
