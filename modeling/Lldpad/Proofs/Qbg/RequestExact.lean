import Lldpad.Proofs.Qbg.RequestText

/-!
# `Lldpad.Proofs.Qbg.RequestExact`: which VSI requests are accepted

`WellFormed` is a documented request: every argument is of the form that is documented for its key,
no mandatory key is missing, the filters have one format, and no two of them the same MAC address.
`ParsedExactly` is what a parser should do: accept these requests and no others, carry their
filters and OUI entries in order, and have the client told when it refuses.

The parser does this on the texts of `PlainText` (`parsedExactly_iff`). It goes wrong where an
argument is loose, a mandatory key is missing, the command word announces other numbers, OUI data
leads outside, or a documented identifier or MAC address is refused.
-/

namespace Lldpad.Qbg

open Lldpad.Lib
open Lldpad.Clif (LenStack argValText argValSize countArgs)

variable {δ : Type}

/-! ### Documented requests -/

/-- The filters of a documented request -/
def filtersOf (args : List (CStr × CStr)) : List Fid := (valuesOf .filter args).filterMap fidText

/-- The OUI entries of a documented request -/
def ouisOf (readers : OuiReaders δ) (args : List (CStr × CStr)) : List (VdpnlOuiData δ) :=
  (valuesOf .oui args).filterMap (ouiText readers)

/-- No mandatory key is missing. -/
def Complete (args : List (CStr × CStr)) : Prop :=
  ∀ key : VsiKeyArg, key.num < vsiMandNumArg → ∃ a ∈ args, getKeyworkVal a.1 = key

/-- A documented request -/
structure WellFormed (readers : OuiReaders δ) (args : List (CStr × CStr)) : Prop where
  documented : ∀ a ∈ args, Documented readers a
  complete : Complete args
  format : ∀ f ∈ filtersOf args, ∀ g ∈ filtersOf args, f.fif = g.fif
  macs : (filtersOf args).Pairwise fun f g => f.mac = none ∨ g.mac ≠ f.mac

/-- The command word announces the filters and the OUI entries of the text. -/
def Announced (ops : Nat) (args : List (CStr × CStr)) : Prop :=
  (valuesOf .filter args).length = fidNo ops ∧ (valuesOf .oui args).length = ouiNo ops

/-- A request with exactly the filters and the OUI entries of the text -/
structure Carries (readers : OuiReaders δ) (ops : Nat) (args : List (CStr × CStr))
    (s : VsiText δ) : Prop where
  announced : Announced ops args
  maclist : s.vsi.maclist = (filtersOf args).map Fid.entry
  filterFmt : ∀ f ∈ filtersOf args, s.vsi.filterFmt = f.fif
  ouiList : s.ouiList = ouisOf readers args

/-- The parser on the text of a command -/
def parseText (readers : OuiReaders δ) (stale : UInt8) (stack : LenStack) (ops : Nat)
    (args : List (CStr × CStr)) : Except Fault (Int × VsiText δ) :=
  str2vdpnl readers stale stack (VsiText.zero δ (fidNo ops) (ouiNo ops)) (argValText args)

/-- What the parser should do: stay inside the text and the lists, accept the documented requests
only, carry their entries, and have the client told when it refuses -/
structure ParsedExactly (readers : OuiReaders δ) (stale : UInt8) (stack : LenStack) (ops : Nat)
    (args : List (CStr × CStr)) : Prop where
  returns : Returns (parseText readers stale stack ops args)
  accepts : (∃ s, parseText readers stale stack ops args = .ok (0, s)) ↔ WellFormed readers args
  carries : ∀ s, parseText readers stale stack ops args = .ok (0, s) → Carries readers ops args s
  reports : ∀ rc s, parseText readers stale stack ops args = .ok (rc, s) → rc ≠ 0 →
    ∀ env test, ∃ status,
      setArgVsi2 env readers stale stack ops (argValText args) test = .ok status ∧
        status ≠ cmdSuccess

/-- A filter with a MAC address of zeros -/
def ZeroMac (a : CStr × CStr) : Prop :=
  getKeyworkVal a.1 = .filter ∧ ∃ f, fidText a.2 = some f ∧ f.mac = some .zero

/-- The texts that the parser is right about -/
structure PlainText (readers : OuiReaders δ) (stale : UInt8) (ops : Nat)
    (args : List (CStr × CStr)) : Prop where
  /-- there are slots for the arguments -/
  slots : args.length ≤ countArgs (argValSize args)
  /-- no OUI data that the parser comes to leads outside -/
  inside : Reached (Good readers stale (fidNo ops)) (Inside readers stale (ouiNo ops)) [] args
  /-- a text whose arguments are all taken has no loose argument, all mandatory keys, and as many
  filters and OUI entries as announced -/
  plain : args ≠ [] → Each (Good readers stale (fidNo ops)) [] args →
    (∀ a ∈ args, ¬Loose a) ∧ Complete args ∧ Announced ops args
  /-- a documented request has no manager identifier of sixteen letters and digits, and no MAC
  address of zeros -/
  common : WellFormed readers args → ∀ a ∈ args, ¬FullId a ∧ ¬ZeroMac a

/-! ### The parser -/

section
variable {readers : OuiReaders δ} {stale : UInt8} {stack : LenStack} {ops : Nat}
  {args : List (CStr × CStr)}

theorem getVdp22Retval_ne {rc : Int} (h : rc ≠ 0) : getVdp22Retval rc ≠ cmdSuccess := by
  unfold getVdp22Retval
  rw [if_neg h]
  split_ifs <;> decide

theorem setArgVsi2_of_refused {rc : Int} {s : VsiText δ}
    (h : parseText readers stale stack ops args = .ok (rc, s)) (hrc : rc ≠ 0) (env : CmdEnv δ)
    (test : Bool) : ∃ status,
      setArgVsi2 env readers stale stack ops (argValText args) test = .ok status ∧
        status ≠ cmdSuccess := by
  unfold setArgVsi2
  split_ifs with hfid hops
  · exact ⟨_, rfl, by decide⟩
  · unfold setArgVsi3
    by_cases hok : env.cmdok ≠ cmdSuccess
    · rw [if_pos hok]
      exact ⟨_, rfl, hok⟩
    · rw [if_neg hok]
      unfold parseText at h
      rw [h, bind_ok]
      dsimp only
      rw [if_pos hrc]
      exact ⟨_, rfl, getVdp22Retval_ne hrc⟩
  · exact ⟨_, rfl, by decide⟩

theorem parseAnswer_fst (vsi : VsiText δ) (r : Option (VsiText δ)) :
    (parseAnswer vsi r).1 = 0 ↔ r.isSome := by
  cases r with
  | none => exact iff_of_false (show ¬errEinval = 0 by decide) nofun
  | some s => exact iff_of_true rfl rfl

theorem parseText_returns (hall : ∀ a ∈ args, a.1.length < 256 ∧ a.2.length < 65536) :
    Returns (parseText readers stale stack ops args) ↔
      args.length ≤ countArgs (argValSize args) ∧
        Reached (Good readers stale (fidNo ops)) (Inside readers stale (ouiNo ops)) [] args := by
  have hchecks := parseArg_checks readers stale (fidNo ops) (ouiNo ops)
  have hstart := parsed_nil readers stale (fidNo ops) (ouiNo ops)
  unfold parseText
  by_cases hne : args = []
  · subst hne
    rw [str2vdpnl_nil]
    exact iff_of_true ⟨_, rfl⟩ ⟨Nat.zero_le _, reached_nil⟩
  by_cases hslots : args.length ≤ countArgs (argValSize args)
  · rw [str2vdpnl_eq hall hne hslots, ← checkAll_returns hchecks hstart]
    constructor
    · rintro ⟨r, hr⟩
      obtain ⟨x, hx, -⟩ := bind_eq_ok.mp hr
      exact ⟨hslots, x, hx⟩
    · rintro ⟨-, x, hx⟩
      exact ⟨_, bind_eq_ok.mpr ⟨x, hx, rfl⟩⟩
  · rw [str2vdpnl_short hall (by omega)]
    exact iff_of_false (not_returns_error _) fun h => hslots h.1

theorem parseText_accepts (hall : ∀ a ∈ args, a.1.length < 256 ∧ a.2.length < 65536) :
    (∃ s, parseText readers stale stack ops args = .ok (0, s)) ↔
      args ≠ [] ∧ args.length ≤ countArgs (argValSize args) ∧
        Each (Good readers stale (fidNo ops)) [] args ∧
        Reached (Good readers stale (fidNo ops)) (Inside readers stale (ouiNo ops)) [] args := by
  have hchecks := parseArg_checks readers stale (fidNo ops) (ouiNo ops)
  have hstart := parsed_nil readers stale (fidNo ops) (ouiNo ops)
  unfold parseText
  by_cases hne : args = []
  · subst hne
    rw [str2vdpnl_nil]
    refine iff_of_false ?_ fun h => h.1 rfl
    rintro ⟨s, hs⟩
    cases hs
  by_cases hslots : args.length ≤ countArgs (argValSize args)
  · rw [str2vdpnl_eq hall hne hslots, ← checkAll_takes hchecks hstart]
    constructor
    · rintro ⟨s, hs⟩
      obtain ⟨x, hx, hanswer⟩ := bind_eq_ok.mp hs
      have hsome := (parseAnswer_fst _ x).mp (congrArg Prod.fst (Except.ok.inj hanswer))
      obtain ⟨t, rfl⟩ := Option.isSome_iff_exists.mp hsome
      exact ⟨hne, hslots, t, hx⟩
    · rintro ⟨-, -, t, ht⟩
      exact ⟨t, bind_eq_ok.mpr ⟨some t, ht, rfl⟩⟩
  · rw [str2vdpnl_short hall (by omega)]
    exact iff_of_false (fun h => nomatch h) fun h => hslots h.2.1

theorem parseText_parsed (hall : ∀ a ∈ args, a.1.length < 256 ∧ a.2.length < 65536) {s : VsiText δ}
    (h : parseText readers stale stack ops args = .ok (0, s)) :
    Parsed readers stale (fidNo ops) (ouiNo ops) args s := by
  have hchecks := parseArg_checks readers stale (fidNo ops) (ouiNo ops)
  have hstart := parsed_nil readers stale (fidNo ops) (ouiNo ops)
  obtain ⟨hne, hslots, -⟩ := (parseText_accepts hall).mp ⟨s, h⟩
  unfold parseText at h
  rw [str2vdpnl_eq hall hne hslots] at h
  obtain ⟨x, hx, hanswer⟩ := bind_eq_ok.mp h
  have hpair : parseAnswer _ x = (0, s) := Except.ok.inj hanswer
  obtain ⟨t, rfl⟩ := Option.isSome_iff_exists.mp
    ((parseAnswer_fst _ x).mp (congrArg Prod.fst hpair))
  obtain rfl : t = s := congrArg Prod.snd hpair
  have hall' := checkAll_inv hchecks hstart hx
  rwa [List.nil_append] at hall'

/-! ### Arguments that are taken, and documented ones -/

theorem valuesOf_append (key : VsiKeyArg) (p q : List (CStr × CStr)) :
    valuesOf key (p ++ q) = valuesOf key p ++ valuesOf key q := by
  unfold valuesOf
  rw [List.filter_append, List.map_append]

theorem valuesOf_split {key : VsiKeyArg} {p q : List (CStr × CStr)} {a : CStr × CStr}
    (ha : getKeyworkVal a.1 = key) :
    valuesOf key (p ++ a :: q) = valuesOf key p ++ a.2 :: valuesOf key q := by
  rw [valuesOf_append]
  unfold valuesOf
  simp [ha]

theorem reads_of_each {size : Nat} (h : Each (Good readers stale size) [] args)
    (hcount : (valuesOf .filter args).length ≤ size) : ∀ a ∈ args, Reads readers stale a := by
  intro a ha
  obtain ⟨p, q, rfl⟩ := List.append_of_mem ha
  have hgood := h p a q rfl
  rw [List.nil_append] at hgood
  unfold Good at hgood
  by_cases hfilter : getKeyworkVal a.1 = .filter
  · rw [if_pos hfilter] at hgood
    rw [valuesOf_split hfilter, List.length_append, List.length_cons] at hcount
    obtain ⟨f, hf, -⟩ := hgood (by omega)
    unfold Reads
    rw [hfilter]
    exact Option.isSome_iff_exists.mpr ⟨f, hf⟩
  · rwa [if_neg hfilter] at hgood

theorem readFid_eq {a : CStr × CStr} (hdoc : Documented readers a)
    (hfilter : getKeyworkVal a.1 = .filter) : readFid a.2 = fidText a.2 := by
  unfold Documented at hdoc
  rw [hfilter] at hdoc
  obtain ⟨f, hf⟩ := Option.isSome_iff_exists.mp hdoc
  rw [hf]
  exact ((fidText_strict a.2 f).mp hf).1

theorem fids_eq {size : Nat} (hdoc : ∀ a ∈ args, Documented readers a) :
    fids size args = ((valuesOf .filter args).take size).filterMap fidText := by
  refine List.filterMap_congr fun v hv => ?_
  obtain ⟨a, ha, hkey, rfl⟩ := mem_valuesOf.mp (List.mem_of_mem_take hv)
  exact readFid_eq (hdoc a ha) hkey

theorem fids_of_le {size : Nat} (hdoc : ∀ a ∈ args, Documented readers a)
    (hcount : (valuesOf .filter args).length ≤ size) : fids size args = filtersOf args := by
  rw [fids_eq hdoc, List.take_of_length_le hcount]
  rfl

theorem ouis_eq (hdoc : ∀ a ∈ args, Documented readers a) :
    ouis readers stale args = ouisOf readers args := by
  refine List.filterMap_congr fun v hv => ?_
  obtain ⟨a, ha, hkey, rfl⟩ := mem_valuesOf.mp hv
  have hd := hdoc a ha
  unfold Documented at hd
  rw [hkey] at hd
  obtain ⟨d, hd⟩ := Option.isSome_iff_exists.mp hd
  rw [hd]
  exact ((ouiText_strict readers stale a.2 d).mp hd).1

theorem each_of_wellFormed {size : Nat} (hwell : WellFormed readers args)
    (hcommon : ∀ a ∈ args, ¬FullId a ∧ ¬ZeroMac a) : Each (Good readers stale size) [] args := by
  rintro p a q rfl
  rw [List.nil_append]
  have hmem : a ∈ p ++ a :: q := List.mem_append_right p List.mem_cons_self
  have hdoc := hwell.documented a hmem
  obtain ⟨hfull, hzero⟩ := hcommon a hmem
  have hreads := ((documented_iff stale).mp ⟨hdoc, hfull⟩).1
  unfold Good
  split_ifs with hfilter
  · intro _
    have hfid := readFid_eq hdoc hfilter
    unfold Reads at hreads
    rw [hfilter] at hreads
    obtain ⟨f, hf⟩ := Option.isSome_iff_exists.mp hreads
    have hftext : fidText a.2 = some f := hfid ▸ hf
    have hsplit : filtersOf (p ++ a :: q) = filtersOf p ++ f :: filtersOf q := by
      unfold filtersOf
      rw [valuesOf_split hfilter, List.filterMap_append, List.filterMap_cons_some hftext]
    refine ⟨f, hf, fun hmac => hzero ⟨hfilter, f, hftext, hmac⟩, fun g hg => ?_⟩
    have hgp : g ∈ filtersOf p := by
      rw [fids_eq fun b hb => hwell.documented b (List.mem_append_left _ hb)] at hg
      obtain ⟨v, hv, hgv⟩ := List.mem_filterMap.mp hg
      exact List.mem_filterMap.mpr ⟨v, List.mem_of_mem_take hv, hgv⟩
    have hformat := hwell.format
    have hmacs := hwell.macs
    rw [hsplit] at hformat hmacs
    have hpair := (List.pairwise_append.mp hmacs).2.2 g hgp f List.mem_cons_self
    refine ⟨hformat g (List.mem_append_left _ hgp) f
      (List.mem_append_right _ List.mem_cons_self), ?_⟩
    rcases hpair with hnone | hne
    · rw [hnone]
      exact Classical.or_iff_not_imp_left.mpr fun hf => Ne.symm hf
    · exact .inr hne.symm
  · exact hreads

theorem wellFormed_of_parsed {s : VsiText δ}
    (hparsed : Parsed readers stale (fidNo ops) (ouiNo ops) args s)
    (heach : Each (Good readers stale (fidNo ops)) [] args) (hloose : ∀ a ∈ args, ¬Loose a)
    (hcomplete : Complete args) (hannounced : Announced ops args) :
    WellFormed readers args ∧ Carries readers ops args s := by
  have hreads := reads_of_each heach (Nat.le_of_eq hannounced.1)
  have hdoc : ∀ a ∈ args, Documented readers a := fun a ha =>
    ((documented_iff stale).mpr ⟨hreads a ha, hloose a ha⟩).1
  have hfids := fids_of_le hdoc (Nat.le_of_eq hannounced.1)
  have hholds := hparsed.holds
  rw [hfids] at hholds
  refine ⟨⟨hdoc, hcomplete, ?_, hholds.macs⟩, hannounced, ?_, ?_, ?_⟩
  · intro f hf g hg
    rw [hholds.format f hf, hholds.format g hg]
  · rw [hholds.maclist, fillFront_full]
    have hread := hparsed.read
    rw [hfids, hannounced.1, Nat.min_self] at hread
    rw [List.length_map, hread]
  · exact fun f hf => (hholds.format f hf).symm
  · rw [hparsed.ouiList, ← ouis_eq hdoc, fillFront_full]
    rw [hparsed.readOuis, hannounced.2]

end

/-! ### The claim -/

/-- The parser does what it should exactly on the plain texts. -/
theorem parsedExactly_iff (readers : OuiReaders δ) (stale : UInt8) (stack : LenStack) (ops : Nat)
    {args : List (CStr × CStr)} (hall : ∀ a ∈ args, a.1.length < 256 ∧ a.2.length < 65536) :
    ParsedExactly readers stale stack ops args ↔ PlainText readers stale ops args := by
  constructor
  · intro h
    obtain ⟨hslots, hinside⟩ := (parseText_returns hall).mp h.returns
    refine ⟨hslots, hinside, fun hne heach => ?_, fun hwell => ?_⟩
    · -- All arguments are taken, so the text is accepted.
      obtain ⟨s, hs⟩ : ∃ s, parseText readers stale stack ops args = .ok (0, s) :=
        (parseText_accepts hall).mpr ⟨hne, hslots, heach, hinside⟩
      have hwell := h.accepts.mp ⟨s, hs⟩
      have hannounced := (h.carries s hs).announced
      refine ⟨fun a ha => ?_, hwell.complete, hannounced⟩
      have hreads := reads_of_each heach (Nat.le_of_eq hannounced.1) a ha
      exact ((documented_iff stale).mp ⟨hwell.documented a ha, not_fullId_of_reads hreads⟩).2
    · -- A documented request is accepted, so nothing in it was refused.
      obtain ⟨s, hs⟩ := h.accepts.mpr hwell
      obtain ⟨-, -, heach, -⟩ := (parseText_accepts hall).mp ⟨s, hs⟩
      have hcount := Nat.le_of_eq (h.carries s hs).announced.1
      have hnonzero := (parseText_parsed hall hs).holds.nonzero
      rw [fids_of_le hwell.documented hcount] at hnonzero
      intro a ha
      refine ⟨not_fullId_of_reads (reads_of_each heach hcount a ha), ?_⟩
      rintro ⟨hfilter, f, hf, hzero⟩
      have hmem : f ∈ filtersOf args :=
        List.mem_filterMap.mpr ⟨a.2, mem_valuesOf.mpr ⟨a, ha, hfilter, rfl⟩, hf⟩
      exact hnonzero f hmem hzero
  · intro h
    have haccepted : ∀ s, parseText readers stale stack ops args = .ok (0, s) →
        WellFormed readers args ∧ Carries readers ops args s := by
      intro s hs
      obtain ⟨hne, -, heach, -⟩ := (parseText_accepts hall).mp ⟨s, hs⟩
      obtain ⟨hloose, hcomplete, hannounced⟩ := h.plain hne heach
      exact wellFormed_of_parsed (parseText_parsed hall hs) heach hloose hcomplete hannounced
    refine ⟨(parseText_returns hall).mpr ⟨h.slots, h.inside⟩, ⟨?_, fun hwell => ?_⟩,
      fun s hs => (haccepted s hs).2, fun rc s hs hrc => setArgVsi2_of_refused hs hrc⟩
    · rintro ⟨s, hs⟩
      exact (haccepted s hs).1
    · refine (parseText_accepts hall).mpr
        ⟨?_, h.slots, each_of_wellFormed hwell (h.common hwell), h.inside⟩
      rintro rfl
      obtain ⟨a, ha, -⟩ := hwell.complete .mode (by decide)
      cases ha

/-- The text of a request, where the type identifier is left open -/
def requestText (typeid : String) : List (CStr × CStr) :=
  [("mode".toList, "assoc".toList), ("mgrid2".toList, "blabla".toList),
    ("typeid".toList, typeid.toList), ("typeidver".toList, "4".toList),
    ("uuid".toList, "1122".toList), ("filter".toList, "2-52:00:00:11:22:33-200".toList)]

/-- No OUI is registered. -/
def noReaders : OuiReaders Unit := fun _ => none

/-- The command word of a request that is set with one filter and no OUI data -/
def oneFilterOps : Nat := 0x10d

theorem requestText_fits (typeid : String) (h : typeid.toList.length < 65536) :
    ∀ a ∈ requestText typeid, a.1.length < 256 ∧ a.2.length < 65536 := by
  simp only [requestText, List.mem_cons, List.not_mem_nil, or_false, forall_eq_or_imp, forall_eq]
  exact ⟨by decide, by decide, ⟨by decide, h⟩, by decide, by decide, by decide⟩

theorem requestText_documented :
    ∀ a ∈ requestText "5", Documented noReaders a ∧ ¬FullId a ∧ ¬ZeroMac a ∧
      getKeyworkVal a.1 ≠ .oui := by
  have hmode : modeText "assoc".toList = true := by decide
  have hmgrid : MgridText "blabla".toList := .inr ⟨List.all_eq_true.mp rfl, by decide⟩
  have htypeid : (numberIn "5".toList 0 0xffffff).isSome = true := by decide
  have hver : (numberIn "4".toList 0 0xff).isSome = true := by decide
  have huuid : UuidText "1122".toList := ⟨by unfold readsUuid; decide, '1', by decide, by decide⟩
  have hfid : fidText "2-52:00:00:11:22:33-200".toList =
      some ⟨2, some ⟨[0x52, 0, 0, 0x11, 0x22, 0x33], rfl⟩, some 200⟩ := by decide
  have hother {key : String} {value : CStr} (hkey : getKeyworkVal key.toList ≠ .filter) :
      ¬ZeroMac (key.toList, value) := fun h => hkey h.1
  have hshort {key : String} {value : CStr} (hlen : value.length ≠ 16) :
      ¬FullId (key.toList, value) := fun h => hlen h.2.2.1
  simp only [requestText, List.mem_cons, List.not_mem_nil, or_false, forall_eq_or_imp, forall_eq]
  refine ⟨⟨hmode, hshort (by decide), hother (by decide), by decide⟩,
    ⟨hmgrid, hshort (by decide), hother (by decide), by decide⟩,
    ⟨htypeid, hshort (by decide), hother (by decide), by decide⟩,
    ⟨hver, hshort (by decide), hother (by decide), by decide⟩,
    ⟨huuid, hshort (by decide), hother (by decide), by decide⟩,
    ⟨Option.isSome_of_eq_some hfid, hshort (by decide), ?_, by decide⟩⟩
  rintro ⟨-, f, hf, hzero⟩
  rw [hfid] at hf
  cases hf
  exact absurd hzero (by decide)

theorem requestText_plain : PlainText noReaders 0 oneFilterOps (requestText "5") where
  slots := Clif.le_countArgs _ _ (by decide)
  inside p a q hsplit _ houi := by
    refine absurd houi (requestText_documented a ?_).2.2.2
    rw [hsplit]
    exact List.mem_append_right p List.mem_cons_self
  plain _ _ := by
    refine ⟨fun a ha => ?_, ?_, by decide, by decide⟩
    · obtain ⟨hdocumented, hfull, -⟩ := requestText_documented a ha
      exact ((documented_iff 0).mp ⟨hdocumented, hfull⟩).2
    · intro key hkey
      cases key <;> first | decide | exact absurd hkey (by decide)
  common _ a ha := ⟨(requestText_documented a ha).2.1, (requestText_documented a ha).2.2.1⟩

/-- This request is plain, so that the parser is right about it. -/
theorem plain_request_parsed :
    PlainText noReaders 0 oneFilterOps (requestText "5") ∧
      ParsedExactly noReaders 0 ⟨0, 0⟩ oneFilterOps (requestText "5") :=
  ⟨requestText_plain,
    (parsedExactly_iff noReaders 0 ⟨0, 0⟩ oneFilterOps (requestText_fits "5" (by decide))).mpr
      requestText_plain⟩

/-- A type identifier of 2^32 + 5 is taken for 5. -/
theorem typeid_reduced :
    ¬ParsedExactly noReaders 0 ⟨0, 0⟩ oneFilterOps (requestText "4294967301") := by
  intro h
  have hfits := requestText_fits "4294967301" (by decide)
  have hslots : (requestText "4294967301").length ≤
      countArgs (argValSize (requestText "4294967301")) := Clif.le_countArgs _ _ (by decide)
  have haccepted : ∃ s, parseText noReaders 0 ⟨0, 0⟩ oneFilterOps (requestText "4294967301") =
      .ok (0, s) := by
    obtain ⟨s, hs⟩ : ∃ s, checkAll (parseArg noReaders 0)
        (VsiText.zero Unit (fidNo oneFilterOps) (ouiNo oneFilterOps)) (requestText "4294967301") =
          .ok (some s) := ⟨_, rfl⟩
    refine ⟨s, ?_⟩
    unfold parseText
    rw [str2vdpnl_eq hfits (by simp [requestText]) hslots, hs]
    rfl
  have hdocumented : (numberIn "4294967301".toList 0 0xffffff).isSome = true :=
    (h.accepts.mp haccepted).documented ("typeid".toList, "4294967301".toList)
      (by simp [requestText])
  exact absurd hdocumented (by decide)

end Lldpad.Qbg
