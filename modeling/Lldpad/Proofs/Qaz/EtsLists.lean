import Lldpad.Qaz.Settings

/-!
# `Lldpad.Proofs.Qaz.EtsLists`: the lists of ETS, written and read

A set command and `read_cfg_file` take the same list apart, each with its own loop.

* `setUp2tc` overwrites the traffic class of a priority, and `set_ets_prio_map` adds the bits of
  a class to those that it read before (`up2tc_kept`).
* `setTsa` and `set_ets_tsa_map` both overwrite, and start from different tables (`tsa_kept`).
* `setTcbw` stops at eight percentages, and `read_cfg_file` does not (`tcbw_kept`).
-/

namespace Lldpad.Qaz

open Lldpad.Lib
open Lldpad.Lldp (Bytes)

/-! ### The map of the priorities -/

/-- The place of a priority in the map -/
def prioShift (prio : Nat) : Nat := 4 * (7 - prio)

variable {p q : Nat} {max tc : UInt8} {m : UInt32} {t' t : Bytes}

theorem testBit_getPrioMap (m : UInt32) (hp : p < 8) (i : Nat) :
    (getPrioMap m p).toNat.testBit i = (decide (i < 4) && m.toNat.testBit (prioShift p + i)) := by
  have hshift : (4 * (7 - p)).toUInt32.toNat % 32 = 4 * (7 - p) := by
    simp only [Nat.toUInt32, UInt32.toNat_ofNat']
    omega
  have hfifteen : (0xF : UInt32).toNat = 2 ^ 4 - 1 := rfl
  unfold getPrioMap
  rw [if_neg (by omega), UInt32.toNat_toUInt8, UInt32.toNat_and, UInt32.toNat_shiftRight, hshift,
    hfifteen, Nat.and_two_pow_sub_one_eq_mod, Nat.testBit_mod_two_pow, Nat.testBit_mod_two_pow,
    Nat.testBit_shiftRight, prioShift]
  by_cases hi : i < 4
  · simp [hi, show i < 8 by omega]
  · simp [hi]

theorem prioMap_ext {n : UInt32} (h : ∀ p < 8, getPrioMap m p = getPrioMap n p) : m = n := by
  refine UInt32.toNat_inj.mp (Nat.eq_of_testBit_eq fun j => ?_)
  by_cases hj : j < 32
  · -- The bit is one of the four of a priority.
    have hp : 7 - j / 4 < 8 := by omega
    have hplace : prioShift (7 - j / 4) + j % 4 = j := by
      unfold prioShift
      omega
    have hbit := congrArg (fun x : UInt8 => x.toNat.testBit (j % 4)) (h _ hp)
    simp only [testBit_getPrioMap _ hp, hplace, show j % 4 < 4 by omega] at hbit
    simpa using hbit
  · have hlt : ∀ x : UInt32, x.toNat < 2 ^ j := fun x =>
      x.toNat_lt.trans_le (Nat.pow_le_pow_right (by decide) (by omega))
    rw [Nat.testBit_lt_two_pow (hlt m), Nat.testBit_lt_two_pow (hlt n)]

theorem testBit_atPrio (htc : tc.toNat < 16) (hp : p < 8) (j : Nat) :
    (tc.toUInt32 <<< (4 * (7 - p)).toUInt32).toNat.testBit j =
      (decide (prioShift p ≤ j) && tc.toNat.testBit (j - prioShift p)) := by
  have hshift : (4 * (7 - p)).toUInt32.toNat % 32 = 4 * (7 - p) := by
    simp only [Nat.toUInt32, UInt32.toNat_ofNat']
    omega
  rw [UInt32.toNat_shiftLeft, hshift, UInt8.toNat_toUInt32, Nat.testBit_mod_two_pow,
    Nat.testBit_shiftLeft, prioShift]
  by_cases hj : j < 32
  · simp [hj]
  · -- A class has four bits, so no bit lies behind the map.
    have hbit : tc.toNat.testBit (j - 4 * (7 - p)) = false :=
      Nat.testBit_lt_two_pow (htc.trans_le
        (show 2 ^ 4 ≤ _ from Nat.pow_le_pow_right (by decide) (by omega)))
    simp [hj, hbit]

theorem prioShift_apart {i : Nat} (hp : p < 8) (hq : q < 8) (hi : i < 4) :
    (prioShift p ≤ prioShift q + i ∧ prioShift q + i - prioShift p < 4) ↔ q = p := by
  unfold prioShift
  omega

theorem getPrioMap_or (m : UInt32) (htc : tc.toNat < 16) (hp : p < 8)
    (hq : q < 8) : getPrioMap (m ||| tc.toUInt32 <<< (4 * (7 - p)).toUInt32) q =
      if q = p then getPrioMap m q ||| tc else getPrioMap m q := by
  refine UInt8.toNat_inj.mp (Nat.eq_of_testBit_eq fun i => ?_)
  have happart := @prioShift_apart p q i hp hq
  rw [testBit_getPrioMap _ hq, UInt32.toNat_or, Nat.testBit_or, testBit_atPrio htc hp]
  by_cases hi : i < 4
  · by_cases hqp : q = p
    · subst hqp
      simp [testBit_getPrioMap _ hq, hi, Nat.testBit_or]
    · -- The class has no bit at the place of another priority.
      have hbit : prioShift p ≤ prioShift q + i → 4 ≤ prioShift q + i - prioShift p := by
        intro hle
        by_contra hlt
        exact hqp ((happart hi).mp ⟨hle, by omega⟩)
      have hzero : (decide (prioShift p ≤ prioShift q + i) &&
          tc.toNat.testBit (prioShift q + i - prioShift p)) = false := by
        by_cases hle : prioShift p ≤ prioShift q + i
        · rw [Nat.testBit_lt_two_pow (htc.trans_le
            (show 2 ^ 4 ≤ _ from Nat.pow_le_pow_right (by decide) (hbit hle))), Bool.and_false]
        · simp [hle]
      simp [hqp, hzero, testBit_getPrioMap _ hq]
  · have hbit : tc.toNat.testBit i = false := Nat.testBit_lt_two_pow (htc.trans_le
      (show 2 ^ 4 ≤ _ from Nat.pow_le_pow_right (by decide) (by omega)))
    split_ifs
    · simp [hi, Nat.testBit_or, testBit_getPrioMap _ hq, hbit]
    · simp [hi, testBit_getPrioMap _ hq]

theorem getPrioMap_mask (m : UInt32) (hp : p < 8) (hq : q < 8) :
    getPrioMap (m &&& ~~~((0xF : UInt32) <<< (4 * (7 - p)).toUInt32)) q =
      if q = p then 0 else getPrioMap m q := by
  refine UInt8.toNat_inj.mp (Nat.eq_of_testBit_eq fun i => ?_)
  have happart := @prioShift_apart p q i hp hq
  have hfifteen : ∀ j, (15 : UInt8).toNat.testBit j = decide (j < 4) := fun j =>
    Nat.testBit_two_pow_sub_one 4 j
  have hnot : (~~~((0xF : UInt32) <<< (4 * (7 - p)).toUInt32)).toNat.testBit (prioShift q + i) =
      (decide (prioShift q + i < 32) &&
        !((0xF : UInt32) <<< (4 * (7 - p)).toUInt32).toNat.testBit (prioShift q + i)) := by
    show (~~~((0xF : UInt32) <<< (4 * (7 - p)).toUInt32)).toBitVec.getLsbD _ = _
    rw [UInt32.toBitVec_not, BitVec.getLsbD_not]
    rfl
  rw [testBit_getPrioMap _ hq, UInt32.toNat_and, Nat.testBit_and, hnot,
    show (0xF : UInt32) = (15 : UInt8).toUInt32 from rfl, testBit_atPrio (by decide) hp, hfifteen]
  have hin : i < 4 → prioShift q + i < 32 := by
    unfold prioShift
    omega
  by_cases hi : i < 4
  · by_cases hqp : q = p
    · simp [hi, hqp]
    · have hout : ¬(prioShift p ≤ prioShift q + i ∧ prioShift q + i - prioShift p < 4) :=
        fun h => hqp ((happart hi).mp h)
      rw [← Bool.decide_and, decide_eq_false hout]
      simp [hi, hqp, hin hi, testBit_getPrioMap _ hq]
  · split_ifs <;> simp [hi, testBit_getPrioMap _ hq]

theorem getPrioMap_setPrioMap (m : UInt32) (htc : tc.toNat < 16) (hp : p < 8) (hq : q < 8) :
    getPrioMap (setPrioMap m p tc) q = if q = p then tc else getPrioMap m q := by
  unfold setPrioMap
  rw [getPrioMap_or _ htc hp hq, getPrioMap_mask _ hp hq]
  split_ifs <;> simp

/-! ### The lists of traffic classes -/

/-- The entry that `_set_arg_up2tc` takes from a token, if it accepts it -/
def up2tcOf (max : UInt8) (token : Token) : Option (Nat × UInt8) :=
  match up2tcEntry max token with
  | .ok entry => entry
  | .error _ => none

/-- The classes that a list names for a priority, in order -/
def classesOf (entries : List (Nat × UInt8)) (p : Nat) : List UInt8 :=
  (entries.filter (·.1 = p)).map (·.2)

theorem classesOf_cons (e : Nat × UInt8) (entries : List (Nat × UInt8)) (p : Nat) :
    classesOf (e :: entries) p =
      if p = e.1 then e.2 :: classesOf entries p else classesOf entries p := by
  unfold classesOf
  by_cases h : e.1 = p
  · simp [h]
  · simp [h, Ne.symm h]

theorem toUInt32_u8 {n : Int} (h₀ : 0 ≤ n) (h : n ≤ 7) : (u8 n).toUInt32 = u32 (n % 8) := by
  have hcases : n = 0 ∨ n = 1 ∨ n = 2 ∨ n = 3 ∨ n = 4 ∨ n = 5 ∨ n = 6 ∨ n = 7 := by omega
  rcases hcases with rfl | rfl | rfl | rfl | rfl | rfl | rfl | rfl <;> rfl

theorem toNat_u8 {n : Int} (h₀ : 0 ≤ n) (h : n < 256) : (u8 n).toNat = n.toNat := by
  unfold u8
  rw [Int.emod_eq_of_lt h₀ h, Nat.toUInt8, UInt8.toNat_ofNat']
  omega

theorem orPrioMap_of_entry {token : Token} {e : Nat × UInt8}
    (h : up2tcEntry max token = .ok (some e)) : e.1 < 8 ∧
      (e.2.toNat ≤ 7 → ∀ m : UInt32,
        orPrioMap m token = .ok (m ||| e.2.toUInt32 <<< (4 * (7 - e.1)).toUInt32)) := by
  unfold up2tcEntry at h
  dsimp only at h
  split_ifs at h with hcolon hneg hseven
  · cases h
  · cases h
  · cases h
  · obtain ⟨arg, harg, h⟩ := bind_eq_ok.mp h
    split_ifs at h with hnone htcneg hmax
    · cases h
    · cases h
    · cases h
    · cases h
      have hprio : 0 ≤ toInt32 (strtol 10 token.text).value := by
        by_contra hlt
        simp [show toInt32 (strtol 10 token.text).value < 0 by omega] at hneg
      have htc : 0 ≤ toInt32 (strtol 10 arg).value := by
        by_contra hlt
        simp [show toInt32 (strtol 10 arg).value < 0 by omega] at htcneg
      refine ⟨by omega, fun hle m => ?_⟩
      have hlt : toInt32 (strtol 10 arg).value < 256 := by
        have := max.toNat_lt
        omega
      dsimp only at hle
      rw [toNat_u8 htc hlt] at hle
      have hmod : (atoi token.text % 8).toNat = (toInt32 (strtol 10 token.text).value).toNat := by
        unfold atoi
        omega
      unfold orPrioMap
      rw [harg, bind_ok]
      rw [toUInt32_u8 htc (by omega), hmod]
      rfl

variable {toks : List Token}

theorem up2tcLoop_eq {m' : UInt32} (h : up2tcLoop max toks m = .ok (true, m')) :
    (∀ token ∈ toks, ∃ e, up2tcEntry max token = .ok (some e)) ∧
      m' = (toks.filterMap (up2tcOf max)).foldl (fun m e => setPrioMap m e.1 e.2) m := by
  induction toks generalizing m with
  | nil =>
    cases h
    exact ⟨nofun, rfl⟩
  | cons token rest ih =>
    rw [up2tcLoop] at h
    obtain ⟨entry, hentry, h⟩ := bind_eq_ok.mp h
    cases entry with
    | none => cases h
    | some e =>
      obtain ⟨hall, hm⟩ := ih h
      refine ⟨fun t ht => ?_, ?_⟩
      · rcases List.mem_cons.mp ht with rfl | ht
        · exact ⟨e, hentry⟩
        · exact hall t ht
      · have hof : up2tcOf max token = some e := by
          unfold up2tcOf
          rw [hentry]
        rw [List.filterMap_cons_some hof, List.foldl_cons]
        exact hm

theorem setEtsPrioMap_eq (hall : ∀ token ∈ toks, ∃ e, up2tcEntry max token = .ok (some e))
    (hle : ∀ e ∈ toks.filterMap (up2tcOf max), e.2.toNat ≤ 7) (m : UInt32) :
    toks.foldlM orPrioMap m = .ok ((toks.filterMap (up2tcOf max)).foldl
      (fun m e => m ||| e.2.toUInt32 <<< (4 * (7 - e.1)).toUInt32) m) := by
  induction toks generalizing m with
  | nil => rfl
  | cons token rest ih =>
    obtain ⟨e, hentry⟩ := hall token List.mem_cons_self
    have hof : up2tcOf max token = some e := by
      unfold up2tcOf
      rw [hentry]
    rw [List.filterMap_cons_some hof] at hle ⊢
    rw [List.foldlM_cons, (orPrioMap_of_entry hentry).2 (hle e List.mem_cons_self), bind_ok,
      List.foldl_cons]
    exact ih (fun t ht => hall t (List.mem_cons_of_mem _ ht))
      (fun e' he' => hle e' (List.mem_cons_of_mem _ he')) _

theorem getPrioMap_written {entries : List (Nat × UInt8)}
    (h : ∀ e ∈ entries, e.1 < 8 ∧ e.2.toNat ≤ 7) (m : UInt32) (hp : p < 8) :
    getPrioMap (entries.foldl (fun m e => setPrioMap m e.1 e.2) m) p =
      (classesOf entries p).getLast?.getD (getPrioMap m p) := by
  induction entries generalizing m with
  | nil => rfl
  | cons e rest ih =>
    obtain ⟨he, hc⟩ := h e List.mem_cons_self
    rw [List.foldl_cons, ih (fun e' he' => h e' (List.mem_cons_of_mem _ he')) _,
      getPrioMap_setPrioMap m (by omega) he hp, classesOf_cons]
    split_ifs
    · rw [List.getLast?_cons]
      simp
    · rfl

theorem getPrioMap_read {entries : List (Nat × UInt8)}
    (h : ∀ e ∈ entries, e.1 < 8 ∧ e.2.toNat ≤ 7) (m : UInt32) (hp : p < 8) :
    getPrioMap (entries.foldl
        (fun m e => m ||| e.2.toUInt32 <<< (4 * (7 - e.1)).toUInt32) m) p =
      (classesOf entries p).foldl (· ||| ·) (getPrioMap m p) := by
  induction entries generalizing m with
  | nil => rfl
  | cons e rest ih =>
    obtain ⟨he, hc⟩ := h e List.mem_cons_self
    rw [List.foldl_cons, ih (fun e' he' => h e' (List.mem_cons_of_mem _ he')) _,
      getPrioMap_or m (by omega) he hp, classesOf_cons]
    split_ifs <;> rfl

/-- A list keeps what an earlier list said: it names every priority whose class in memory is not
zero, no class above seven, and for a priority that it names more than once no class with a bit
that the last one does not have. -/
def Up2tcKeeps (prioMap : UInt32) (entries : List (Nat × UInt8)) : Prop :=
  (∀ e ∈ entries, e.2.toNat ≤ 7) ∧ ∀ p < 8,
    (classesOf entries p = [] → getPrioMap prioMap p = 0) ∧
    ∀ last ∈ (classesOf entries p).getLast?, ∀ c ∈ classesOf entries p, c ||| last = last

theorem foldl_or_eq_last {last : UInt8} {classes : List UInt8}
    (hall : ∀ c ∈ classes, c ||| last = last) (hlast : last ∈ classes) {x : UInt8}
    (hx : x ||| last = last) : classes.foldl (· ||| ·) x = last := by
  -- The classes that are put together never leave the last one, and it is among them.
  have hkeep : ∀ l : List UInt8, (∀ c ∈ l, c ||| last = last) → ∀ y : UInt8, y ||| last = last →
      l.foldl (· ||| ·) y ||| last = last ∧
        (last ∈ l ∨ y = last → l.foldl (· ||| ·) y = last) := by
    intro l
    induction l with
    | nil => exact fun _ y hy => ⟨hy, fun h => h.elim nofun id⟩
    | cons c l ih =>
      intro hl y hy
      have hc := hl c List.mem_cons_self
      have hyc : y ||| c ||| last = last := by rw [UInt8.or_assoc, hc, hy]
      obtain ⟨h₁, h₂⟩ := ih (fun c' hc' => hl c' (List.mem_cons_of_mem _ hc')) (y ||| c) hyc
      refine ⟨h₁, fun h => h₂ ?_⟩
      rcases h with h | rfl
      · rcases List.mem_cons.mp h with rfl | h
        · exact .inr hy
        · exact .inl h
      · exact .inr (by rw [UInt8.or_comm, hc])
  exact (hkeep classes hall x hx).2 (.inl hlast)

theorem up2tc_kept {m' : UInt32} (h : up2tcLoop max toks m = .ok (true, m'))
    (hkeeps : Up2tcKeeps m (toks.filterMap (up2tcOf max))) :
    toks.foldlM orPrioMap 0 = .ok m' := by
  obtain ⟨hall, rfl⟩ := up2tcLoop_eq h
  obtain ⟨hle, hkeep⟩ := hkeeps
  rw [setEtsPrioMap_eq hall hle]
  have hentries : ∀ e ∈ toks.filterMap (up2tcOf max), e.1 < 8 ∧ e.2.toNat ≤ 7 := by
    intro e he
    obtain ⟨token, htoken, hof⟩ := List.mem_filterMap.mp he
    obtain ⟨e', hentry⟩ := hall token htoken
    have hsome : up2tcOf max token = some e' := by
      unfold up2tcOf
      rw [hentry]
    obtain rfl : e' = e := Option.some.inj (hsome.symm.trans hof)
    exact ⟨(orPrioMap_of_entry hentry).1, hle e' he⟩
  refine congrArg Except.ok (prioMap_ext fun p hp => ?_)
  rw [getPrioMap_written hentries m hp, getPrioMap_read hentries 0 hp]
  have hzero : getPrioMap 0 p = 0 := by
    unfold getPrioMap
    simp
  obtain ⟨hnone, hlast⟩ := hkeep p hp
  rw [hzero]
  cases hclasses : (classesOf (toks.filterMap (up2tcOf max)) p).getLast? with
  | none =>
    have hnil := List.getLast?_eq_none_iff.mp hclasses
    rw [hnil]
    exact (hnone hnil).symm
  | some last =>
    exact foldl_or_eq_last (hlast last hclasses) (List.mem_of_getLast? hclasses) (UInt8.zero_or)

/-! ### The lists of algorithms -/

theorem readTsaEntry_of_entry {token : Token} {tc : Int} {type : UInt8}
    (h : tsaEntry token = some (tc, type)) (table : Bytes) :
    readTsaEntry table token = writeTc table tc type := by
  unfold tsaEntry at h
  split_ifs at h with hcolon hseven
  obtain ⟨type', htype, heq⟩ := Option.map_eq_some_iff.mp h
  cases heq
  have hlen : 2 ≤ token.text.length := by
    by_contra hlt
    rw [List.drop_eq_nil_of_le (by omega)] at hcolon
    simp at hcolon
  have harg : tokenAt token 2 = .ok (token.text.drop 2) := by
    unfold tokenAt Token.drop
    rw [if_pos hlen]
  unfold readTsaEntry
  rw [harg, bind_ok, htype]
  rfl

/-- The traffic classes that a list names -/
def tcsOf (toks : List Token) : List Int := (toks.filterMap tsaEntry).map (·.1)

theorem writeTc_eq_ok {table table' : Bytes} {tc : Int} {x : UInt8}
    (h : writeTc table tc x = .ok table') :
    0 ≤ tc ∧ tc < maxTcs ∧ table' = table.set tc.toNat x := by
  unfold writeTc at h
  split_ifs at h with hrange
  cases h
  exact ⟨hrange.1, hrange.2, rfl⟩

theorem tsaLoop_agree {u : Bytes} (h : tsaLoop toks t = .ok (true, t'))
    (hlen : u.length = t.length) (hagree : ∀ i : Nat, (i : Int) ∉ tcsOf toks → u[i]? = t[i]?) :
    toks.foldlM readTsaEntry u = .ok t' := by
  induction toks generalizing t u with
  | nil =>
    cases h
    exact congrArg Except.ok (List.ext_getElem? fun i => hagree i nofun)
  | cons token rest ih =>
    rw [tsaLoop] at h
    cases hentry : tsaEntry token with
    | none =>
      rw [hentry] at h
      cases h
    | some e =>
      obtain ⟨tc, type⟩ := e
      rw [hentry] at h
      obtain ⟨t₁, hwrite, h⟩ := bind_eq_ok.mp h
      obtain ⟨h₀, hlt, rfl⟩ := writeTc_eq_ok hwrite
      have hu : writeTc u tc type = .ok (u.set tc.toNat type) := by
        exact if_pos ⟨h₀, hlt⟩
      rw [List.foldlM_cons, readTsaEntry_of_entry hentry, hu, bind_ok]
      refine ih h (by simp [hlen]) fun i hi => ?_
      by_cases hit : tc.toNat = i
      · -- The entry is written in both tables.
        subst hit
        by_cases hin : tc.toNat < t.length
        · rw [List.getElem?_set_self (by omega), List.getElem?_set_self hin]
        · rw [List.getElem?_eq_none (by simp; omega), List.getElem?_eq_none (by simp; omega)]
      · rw [List.getElem?_set_ne hit, List.getElem?_set_ne hit]
        refine hagree i fun hmem => hi ?_
        unfold tcsOf at hmem ⊢
        rw [List.filterMap_cons_some hentry, List.map_cons] at hmem
        rcases List.mem_cons.mp hmem with heq | hmem
        · dsimp only at heq
          omega
        · exact hmem

/-- A list keeps what an earlier list said: it names every traffic class whose algorithm in
memory is not strict priority. -/
def TsaKeeps (tsaMap : Bytes) (toks : List Token) : Prop :=
  ∀ i < maxTcs, (i : Int) ∈ tcsOf toks ∨ tsaMap[i]? = some ieee8021qTsaStrict

theorem tsa_kept (h : tsaLoop toks t = .ok (true, t'))
    (hlen : t.length = maxTcs) (hkeeps : TsaKeeps t toks) :
    toks.foldlM readTsaEntry zeroTcs = .ok t' := by
  refine tsaLoop_agree h (by simp [zeroTcs, hlen]) fun i hi => ?_
  by_cases hlt : i < maxTcs
  · rw [(hkeeps i hlt).resolve_left hi]
    simp [zeroTcs, hlt, ieee8021qTsaStrict]
  · rw [List.getElem?_eq_none (by simp [zeroTcs]; omega), List.getElem?_eq_none (by omega)]

theorem readTsa_length (h : toks.foldlM readTsaEntry t = .ok t') : t'.length = t.length := by
  induction toks generalizing t with
  | nil =>
    cases h
    rfl
  | cons token rest ih =>
    rw [List.foldlM_cons] at h
    obtain ⟨t₁, hturn, h⟩ := bind_eq_ok.mp h
    obtain ⟨name, -, hwrite⟩ := bind_eq_ok.mp hturn
    obtain ⟨-, -, rfl⟩ := writeTc_eq_ok hwrite
    rw [ih h, List.length_set]

/-! ### The lists of percentages -/

theorem readTcbwFrom_eq {i : Nat} {before behind : Bytes}
    (hi : before.length = i) (hroom : toks.length ≤ behind.length)
    (hlen : i + behind.length = maxTcs) : readTcbwFrom i toks (before ++ behind) =
      .ok (before ++ toks.map (fun token => u8 (atoi token.text)) ++ behind.drop toks.length) := by
  induction toks generalizing i before behind with
  | nil => simp [readTcbwFrom]
  | cons token rest ih =>
    cases behind with
    | nil => simp at hroom
    | cons x behind =>
      simp only [List.length_cons] at hroom hlen
      have hwrite : writeTc (before ++ x :: behind) i (u8 (atoi token.text)) =
          .ok ((before ++ [u8 (atoi token.text)]) ++ behind) := by
        unfold writeTc
        rw [if_pos ⟨by omega, by omega⟩]
        subst hi
        simp
      rw [readTcbwFrom, hwrite, bind_ok, ih (by simp [hi]) (by omega) (by omega)]
      simp

theorem tcbw_kept {value : CStr} (h : (tokens ',' value).length ≤ 8) :
    readTcbwFrom 0 (tokens ',' value) zeroTcs = .ok (percents value) := by
  have hroom : (tokens ',' value).length ≤ zeroTcs.length := h
  have hread : readTcbwFrom 0 (tokens ',' value) ([] ++ zeroTcs) =
      .ok ([] ++ (tokens ',' value).map (fun token => u8 (atoi token.text)) ++
        zeroTcs.drop (tokens ',' value).length) := readTcbwFrom_eq rfl hroom rfl
  rw [List.nil_append] at hread
  rw [hread, zeroTcs, List.drop_replicate]
  simp [percents, maxTcs, List.take_of_length_le h]

end Lldpad.Qaz
