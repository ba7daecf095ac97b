import Lldpad.Proofs.Lldp.Grammar

/-!
# `Lldpad.Proofs.Lldp.InsideFrame`: what is read of a frame lies inside it

The walk over the TLVs reads at the TLVs that it comes to (`Reached`), and these are a matter of
the frame and the modules. `processInside_iff` says for which frames the walk stays inside: it
must not come to a TLV that begins on the last byte of the frame or right behind it, nor to one
that passes the checks and ends one or two bytes behind it. `receiveInside_iff` is the same for
`rxReceiveFrame`, which looks at the Ethernet header of a frame of any length.
-/

namespace Lldpad.Lldp

open Lldpad.Lib

variable {μ : Type}

/-- All of the bytes lie inside the first `size`. -/
def Inside (size : Nat) (reads : List Nat) : Prop := ∀ i ∈ reads, i < size

theorem inside_append {size : Nat} {xs ys : List Nat} :
    Inside size (xs ++ ys) ↔ Inside size xs ∧ Inside size ys := List.forall_mem_append

theorem inside_bytesFrom {size i n : Nat} :
    Inside size (bytesFrom i n) ↔ n = 0 ∨ i + n ≤ size := by
  constructor
  · intro h
    cases n with
    | zero => exact .inl rfl
    | succ n =>
      have hlast := h (i + n) (List.mem_map.mpr ⟨n, List.mem_range.mpr (Nat.lt_succ_self n), rfl⟩)
      exact .inr (by omega)
  · rintro h x hx
    obtain ⟨j, hj, rfl⟩ := List.mem_map.mp hx
    have hlt := List.mem_range.mp hj
    omega

/-! ### The TLVs that the walk comes to -/

/-- The walk that starts at TLV `n` takes `k` TLVs, none of them the End TLV. -/
structure ReachedFrom (env : Env μ) (p : Port) (f : Frame) (n ref : Nat) (o : Offer μ) (k : Nat) :
    Prop where
  valid : ∀ i < k, f.valid (n + i) = true
  notEnd : ∀ i < k, f.tlvType (n + i) ≠ 0
  taken : (takeTlvs env p f k n ref o).isSome = true

section

variable {env : Env μ} {p : Port} {f : Frame} {n ref : Nat} {o o' : Offer μ}

theorem reachedFrom_zero : ReachedFrom env p f n ref o 0 := ⟨nofun, nofun, rfl⟩

theorem ReachedFrom.head {k : Nat} (h : ReachedFrom env p f n ref o (k + 1)) :
    f.valid n = true ∧ f.tlvType n ≠ 0 ∧ ∃ o', takeTlv env p f n ref o = some o' ∧
      ReachedFrom env p f (n + 1) (ref + 1) o' k := by
  have hshift : ∀ i, n + (i + 1) = n + 1 + i := by
    intro i
    omega
  have htaken := h.taken
  rw [takeTlvs] at htaken
  cases htake : takeTlv env p f n ref o with
  | none =>
    rw [htake] at htaken
    cases htaken
  | some o' =>
    rw [htake] at htaken
    refine ⟨h.valid 0 (Nat.succ_pos k), h.notEnd 0 (Nat.succ_pos k), o', rfl, ?_, ?_, htaken⟩
    · intro i hi
      rw [← hshift]
      exact h.valid (i + 1) (by omega)
    · intro i hi
      rw [← hshift]
      exact h.notEnd (i + 1) (by omega)

theorem reachedFrom_succ {k : Nat} (hvalid : f.valid n = true) (hmore : f.tlvType n ≠ 0)
    (htake : takeTlv env p f n ref o = some o')
    (h : ReachedFrom env p f (n + 1) (ref + 1) o' k) : ReachedFrom env p f n ref o (k + 1) := by
  have hshift : ∀ i, n + (i + 1) = n + 1 + i := by
    intro i
    omega
  refine ⟨?_, ?_, ?_⟩
  · intro i hi
    cases i with
    | zero => exact hvalid
    | succ i =>
      rw [hshift]
      exact h.valid i (by omega)
  · intro i hi
    cases i with
    | zero => exact hmore
    | succ i =>
      rw [hshift]
      exact h.notEnd i (by omega)
  · rw [takeTlvs, htake]
    exact h.taken

end

/-- The bytes of TLV `n` that are read -/
def tlvReads (f : Frame) (n : Nat) : List Nat := passReads f (n + 1) (f.offsetOf n)

/-- The reads of the walk are those of the TLVs that it comes to. The induction is on the
passes. -/
theorem walkReads_inside_iff (env : Env μ) (f : Frame) (nb : Neighbour) {p : Port} :
    ∀ (fuel n : Nat) (c : Ctx μ) (l : RxLocals) (o : Offer μ), AtTlv f nb n c l → Offered p c o →
      (Inside f.size (walkReads env f fuel (c, l)) ↔
        ∀ k < fuel, ReachedFrom env p f n c.tlvs.created o k →
            Inside f.size (tlvReads f (n + k))) := by
  intro fuel
  induction fuel with
  | zero =>
    intro n c l o _ _
    exact iff_of_true (List.forall_mem_nil _) fun k hk => absurd hk (Nat.not_lt_zero k)
  | succ fuel ih =>
    intro n c l o hat ho
    obtain rfl := ho.port
    have hhere : passReads f (l.tlvCnt + 1) l.tlvOffset = tlvReads f n := by
      rw [hat.cnt, hat.offset]
      rfl
    rw [walkReads, inside_append]
    rw [hhere]
    -- The walk is over: there is no TLV but the one at hand.
    have hover : (∀ k, ¬ ReachedFrom env c.port f n c.tlvs.created o (k + 1)) →
        ((Inside f.size (tlvReads f n) ∧ Inside f.size []) ↔
          ∀ k < fuel + 1, ReachedFrom env c.port f n c.tlvs.created o k →
            Inside f.size (tlvReads f (n + k))) := by
      intro hno
      constructor
      · rintro ⟨h, _⟩ k _ hk
        cases k with
        | zero => exact h
        | succ k => exact absurd hk (hno k)
      · intro h
        exact ⟨h 0 (Nat.succ_pos fuel) reachedFrom_zero, List.forall_mem_nil _⟩
    have hpass := tlvPass_rxTlv env f c l
    generalize rxTlv env f (c, l) = q at hpass
    cases hpass with
    | unreadable hread =>
      refine hover fun k hk => ?_
      have hvalid := hk.head.1
      rw [hat.cnt, hat.offset] at hread
      rw [Frame.valid, hread] at hvalid
      cases hvalid
    | repeated hread hstore => exact absurd hstore (storeTlv_isSome hat hread)
    | rejected hread hstore hall =>
      obtain ⟨o', hoffer, _⟩ := taken_of_valid env hat ho hread hstore
      rw [hall] at hoffer
      refine hover fun k hk => ?_
      obtain ⟨_, _, o'', htake, _⟩ := hk.head
      rw [takeTlv, hoffer] at htake
      cases htake
    | last hread hstore hall hend =>
      obtain ⟨_, _, htype⟩ := newTlv_eq hat hread
      rw [htype] at hend
      exact hover fun k hk => hk.head.2.1 hend
    | next hread hstore hall hmore =>
      obtain ⟨hnew, hvalid, htype⟩ := newTlv_eq hat hread
      obtain ⟨o', hoffer, htaken⟩ := taken_of_valid env hat ho hread hstore
      rw [hall] at hoffer htaken
      have htake : takeTlv env c.port f n c.tlvs.created o = some o' := by
        rw [takeTlv, hoffer]
      rw [htype] at hmore
      obtain ⟨hat', ho', hcreated⟩ := htaken.next (f.tlv n c.tlvs.created) _
      rw [hnew]
      rw [ih _ _ _ _ hat' ho', hcreated]
      constructor
      · rintro ⟨hfirst, hrest⟩ k hk hreach
        cases k with
        | zero => exact hfirst
        | succ k =>
          obtain ⟨_, _, o'', htake', hreach'⟩ := hreach.head
          cases htake.symm.trans htake'
          rw [show n + (k + 1) = n + 1 + k by omega]
          exact hrest k (by omega) hreach'
      · intro h
        refine ⟨h 0 (Nat.succ_pos fuel) reachedFrom_zero, fun k hk hreach => ?_⟩
        rw [show n + 1 + k = n + (k + 1) by omega]
        exact h (k + 1) (by omega) (reachedFrom_succ hvalid hmore htake hreach)

/-! ### `rxProcessFrame` -/

/-- The walk over frame `f` comes to TLV `n`. -/
def Reached (env : Env μ) (c : Ctx μ) (f : Frame) (n : Nat) : Prop :=
  ReachedFrom env c.port f 0 c.tlvs.created c.offer n

/-- A TLV that the walk comes to is inside, as far as the checks go: with its header, if its
offset is, and with its information, if it passes them. -/
def TlvInside (f : Frame) (n : Nat) : Prop :=
  (f.offsetOf n ≤ f.size → f.offsetOf n + 2 ≤ f.size) ∧
    (f.valid n = true → f.offsetOf n + 2 + f.tlvLength n ≤ f.size)

instance (f : Frame) (n : Nat) : Decidable (TlvInside f n) := inferInstanceAs (Decidable (_ ∧ _))

theorem tlvReads_inside_iff (f : Frame) (n : Nat) :
    Inside f.size (tlvReads f n) ↔ TlvInside f n := by
  unfold tlvReads passReads TlvInside
  by_cases hover : f.offsetOf n > f.size
  · -- An offset behind the frame is noticed before anything is read.
    rw [if_pos hover]
    refine iff_of_true (List.forall_mem_nil _) ⟨fun hle => by omega, fun hvalid => ?_⟩
    have hle := offsetOf_le_of_valid hvalid
    omega
  · rw [if_neg hover, inside_append, inside_bytesFrom]
    cases hread : readTlv f (n + 1) (f.offsetOf n) with
    | none =>
      have hinvalid : f.valid n = false := by
        rw [Frame.valid, hread]
        rfl
      rw [hinvalid]
      constructor
      · rintro ⟨h, _⟩
        exact ⟨fun _ => by omega, fun h => by cases h⟩
      · rintro ⟨h, _⟩
        exact ⟨.inr (h (by omega)), List.forall_mem_nil _⟩
    | some head =>
      have hvalid : f.valid n = true := by
        rw [Frame.valid, hread]
        rfl
      have hlength : head.2 = f.tlvLength n := congrArg Prod.snd (readTlv_eq_some hread)
      dsimp only
      rw [hlength, inside_bytesFrom]
      constructor
      · rintro ⟨hhead, hinfo⟩
        exact ⟨fun _ => by omega, fun _ => by omega⟩
      · rintro ⟨hhead, hinfo⟩
        have htlv := hinfo hvalid
        exact ⟨by omega, by omega⟩

theorem reached_lt_fuel {env : Env μ} {c : Ctx μ} {f : Frame} {n : Nat} (h : Reached env c f n) :
    n < tlvFuel f := by
  unfold tlvFuel
  cases n with
  | zero => omega
  | succ n =>
    have hvalid := h.valid n (Nat.lt_succ_self n)
    rw [Nat.zero_add] at hvalid
    have hge := offsetOf_ge f n
    have hle := offsetOf_le_of_valid hvalid
    omega

/-- What `rxProcessFrame` reads lies inside the frame, and a frame that ends in a TLV that the
walk comes to is counted as an error. -/
def ProcessInside (env : Env μ) (c : Ctx μ) (f : Frame) : Prop :=
  Inside f.size (processReads env c f) ∧
    ∃ c', rxProcessFrame env c = .ok c' ∧
      ((∃ n, Reached env c f n ∧ f.size < f.offsetOf n + 2 + f.tlvLength n) →
        FrameErrorCounted c c')

theorem processReads_inside_iff (env : Env μ) (c : Ctx μ) (f : Frame) :
    Inside f.size (processReads env c f) ↔
      2 * ethAlen ≤ f.size ∧ ∀ n, Reached env c f n → TlvInside f n := by
  have hat : AtTlv f c.agent.neighbour 0 { c with agent := beginFrame c.agent } {} :=
    ⟨rfl, rfl, rfl, fun _ _ _ => BitVec.zero_and, rfl⟩
  have hwalk := walkReads_inside_iff env f c.agent.neighbour (p := c.port) (tlvFuel f) 0
    { c with agent := beginFrame c.agent } {} c.offer hat ⟨rfl, rfl, rfl⟩
  rw [processReads, inside_append, remotePeerMacReads, inside_bytesFrom, hwalk]
  have hmac : (ethAlen = 0 ∨ ethAlen + ethAlen ≤ f.size) ↔ 2 * ethAlen ≤ f.size := by
    omega
  rw [hmac]
  refine and_congr_right fun _ => ?_
  constructor
  · intro h n hn
    have hinside := h n (reached_lt_fuel hn) hn
    rw [Nat.zero_add] at hinside
    exact (tlvReads_inside_iff f n).mp hinside
  · intro h n _ hn
    rw [Nat.zero_add]
    exact (tlvReads_inside_iff f n).mpr (h n hn)

theorem reached_le_of_accepted {env : Env μ} {c : Ctx μ} {f : Frame} {n m : Nat}
    (hn : Reached env c f n) (hm : AcceptedUpTo env c f m) : n ≤ m := by
  by_contra hlt
  have hne := hn.notEnd m (by omega)
  exact hne hm.isEnd

/-- `rxProcessFrame` stays inside the frame if and only if the frame has both addresses, and the
walk never comes to a TLV that is not inside as far as the checks go. -/
theorem processInside_iff (env : Env μ) {c : Ctx μ} {f : Frame}
    (hf : c.agent.rx.framein = some f) (hsize : f.size ≠ 0) :
    ProcessInside env c f ↔ 2 * ethAlen ≤ f.size ∧ ∀ n, Reached env c f n → TlvInside f n := by
  rw [← processReads_inside_iff]
  refine ⟨fun h => h.1, fun h => ⟨h, ?_⟩⟩
  obtain ⟨c', hc', hcount⟩ := rxProcessFrame_counts env hf hsize
  refine ⟨c', hc', ?_⟩
  rintro ⟨n, hn, hout⟩
  -- A frame that is accepted has no TLV that the checks missed.
  have herror : (c.outcome env f).error = true := by
    by_contra hnot
    obtain ⟨m, hm⟩ := (outcome_error_iff env c f).mp (eq_false_of_ne_true hnot)
    have hvalid := hm.valid n (reached_le_of_accepted hn hm)
    rw [Nat.zero_add] at hvalid
    have hin := (((processReads_inside_iff env c f).mp h).2 n hn).2 hvalid
    omega
  rw [herror] at hcount
  exact hcount

/-! ### `rxReceiveFrame` -/

/-- The Ethernet header is looked at: the first agent does not hold a copy of the frame. -/
def HeaderRead (f : Frame) (s : PortState μ) : Prop :=
  f.size ≠ 0 ∧ ∃ a as, s.agents = a :: as ∧ a.holdsFrame f = false

/-- Some agent counted a frame as discarded and as an error. -/
def SomeErrorCounted (s t : PortState μ) : Prop :=
  ∃ a b, (a, b) ∈ s.agents.zip t.agents ∧
    b.stats.statsFramesDiscardedTotal = a.stats.statsFramesDiscardedTotal + 1 ∧
    b.stats.statsFramesInErrorsTotal = a.stats.statsFramesInErrorsTotal + 1

/-- What `rxReceiveFrame` reads lies inside the frame, and a frame that ends in its Ethernet
header is counted as an error when the header is looked at. -/
def ReceiveInside (env : Env μ) (f : Frame) (s : PortState μ) : Prop :=
  Inside f.size (receiveReads f s) ∧
    (HeaderRead f s → f.size < ethHlen →
      ∃ t, rxReceiveFrame env f s = .ok t ∧ SomeErrorCounted s t)

theorem compareReads_inside (f : Frame) (a : LldpAgent) : Inside f.size (compareReads f a) := by
  unfold compareReads
  cases a.rx.framein with
  | none => exact nofun
  | some g =>
    dsimp only
    split
    · exact inside_bytesFrom.mpr (.inr (by omega))
    · exact nofun

theorem storeReads_inside (f : Frame) (a : LldpAgent) : Inside f.size (storeReads f a) := by
  unfold storeReads
  split
  · exact nofun
  · exact inside_bytesFrom.mpr (.inr (by omega))

theorem receiveLoopReads_inside {f : Frame} (h : ethHlen ≤ f.size) (as : List LldpAgent) :
    Inside f.size (receiveLoopReads f as) := by
  have hhlen : 2 * ethAlen + 2 ≤ f.size := h
  induction as with
  | nil => exact nofun
  | cons a as ih =>
    rw [receiveLoopReads]
    refine inside_append.mpr ⟨compareReads_inside f a, ?_⟩
    split
    · exact nofun
    · refine inside_append.mpr ⟨inside_bytesFrom.mpr (.inr hhlen), ?_⟩
      split
      · exact nofun
      · refine inside_append.mpr ⟨inside_bytesFrom.mpr (.inr (by omega)), ?_⟩
        split
        · exact storeReads_inside f a
        · exact ih

/-- `rxReceiveFrame` stays inside the frame if and only if the frame has an Ethernet header when
it is looked at. -/
theorem receiveInside_iff (env : Env μ) (f : Frame) (s : PortState μ) :
    ReceiveInside env f s ↔ (HeaderRead f s → ethHlen ≤ f.size) := by
  constructor
  · rintro ⟨h, _⟩ ⟨hsize, a, as, has, hcopy⟩
    rw [receiveReads, if_neg hsize, has, receiveLoopReads, hcopy, if_neg Bool.false_ne_true] at h
    -- `h_proto` is the end of the header.
    have hproto := (inside_append.mp (inside_append.mp h).2).1
    have hend := inside_bytesFrom.mp hproto
    have hhlen : ethHlen = 2 * ethAlen + 2 := rfl
    omega
  · intro h
    refine ⟨?_, fun hread hshort => by have hlong := h hread; omega⟩
    unfold receiveReads
    split
    · exact nofun
    · next hsize =>
      cases has : s.agents with
      | nil => exact nofun
      | cons a as =>
        cases hcopy : a.holdsFrame f with
        | false => exact receiveLoopReads_inside (h ⟨hsize, a, as, has, hcopy⟩) (a :: as)
        | true =>
          rw [receiveLoopReads, hcopy, if_pos rfl, List.append_nil]
          exact compareReads_inside f a

/-! ### A frame, and its beginning -/

theorem goodFrame_tlvsInside (n : Nat)
    (h : Reached stationEnv (stationWith goodFrame) goodFrame n) :
    TlvInside goodFrame n := by
  have hend : goodFrame.tlvType 3 = 0 := by decide +kernel
  have hfour : ∀ k ≤ 3, TlvInside goodFrame k := by decide +kernel
  have hle : n ≤ 3 := by
    by_contra hlt
    exact h.notEnd 3 (by omega) hend
  exact hfour n hle

/-- The good frame without its End TLV -/
def noEndFrame : Frame := stationFrame 5 (stationTlvs 5 120)

theorem noEndFrame_not_inside :
    ¬ ProcessInside stationEnv (stationWith noEndFrame) noEndFrame := by
  have hread : noEndFrame.size ∈
      processReads stationEnv (stationWith noEndFrame) noEndFrame := by decide +kernel
  rintro ⟨hinside, _⟩
  exact Nat.lt_irrefl _ (hinside _ hread)

end Lldpad.Lldp
