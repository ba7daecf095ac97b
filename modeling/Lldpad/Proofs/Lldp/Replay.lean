import Lldpad.Proofs.Lldp.Pass

/-!
# `Lldpad.Proofs.Lldp.Replay`: what a frame says, and what the modules say to it

`rxProcessFrame` interleaves three things: it takes the frame apart, it keeps the
neighbour's identity and time to live, and it asks the modules. This file states each of
them on its own.

* `Frame.offsetOf`, `Frame.tlv`: the TLVs of a frame, as functions of the frame.
* `Neighbour` and `see`: what an agent knows of its neighbours after so many TLVs.
* `Offer` and `replay`: the modules alone, offered one TLV after the other.

`Lldpad.Proofs.Lldp.Walk` shows that the walk over a frame is these three together.
-/

namespace Lldpad.Lldp

open Lldpad.Lib

variable {μ : Type}

/-! ### The TLVs of a frame -/

namespace Frame

/-- The offset of TLV `n`, counted from 0. -/
def offsetOf (f : Frame) : Nat → Nat
  | 0 => ethHlen
  | n + 1 => f.offsetOf n + 2 + f.word (f.offsetOf n) % 512

/-- The type of TLV `n`. -/
def tlvType (f : Frame) (n : Nat) : Nat := f.word (f.offsetOf n) / 512

/-- The length of TLV `n`. -/
def tlvLength (f : Frame) (n : Nat) : Nat := f.word (f.offsetOf n) % 512

/-- The information string of TLV `n`. -/
def info (f : Frame) (n : Nat) : Bytes := f.slice (f.offsetOf n + 2) (f.tlvLength n)

/-- TLV `n` under handle `ref`. -/
def tlv (f : Frame) (n ref : Nat) : UnpackedTlv :=
  { ref := ref, type := f.tlvType n, length := f.tlvLength n, info := f.info n }

/-- TLV `n` passes the checks on its header. -/
def valid (f : Frame) (n : Nat) : Bool := (readTlv f (n + 1) (f.offsetOf n)).isSome

/-- The chassis ID, which is the first TLV. -/
def chassisId (f : Frame) : Bytes := f.info 0

/-- The port ID, which is the second TLV. -/
def portId (f : Frame) : Bytes := f.info 1

/-- The time to live, which is the third TLV. -/
def ttl (f : Frame) : Nat := (f.tlv 2 0).word

theorem slice_length (f : Frame) (i n : Nat) : (f.slice i n).length = n := by
  simp [slice]

@[simp] theorem info_length (f : Frame) (n : Nat) : (f.info n).length = f.tlvLength n :=
  f.slice_length _ _

end Frame

theorem readTlv_eq_some {f : Frame} {cnt off : Nat} {head : Nat × Nat}
    (h : readTlv f cnt off = some head) :
    head = (f.word off / 512, f.word off % 512) := by
  unfold readTlv at h
  dsimp only at h
  split_ifs at h
  exact (Option.some.inj h).symm

theorem readTlv_type {f : Frame} {cnt off : Nat} {head : Nat × Nat}
    (h : readTlv f cnt off = some head) :
    (cnt ≤ 3 → head.1 = cnt) ∧ (3 < cnt → head.1 ≠ 1 ∧ head.1 ≠ 2 ∧ head.1 ≠ 3) := by
  unfold readTlv at h
  dsimp only at h
  split_ifs at h with h₁ h₂ h₃ h₄ h₅
  cases h
  refine ⟨fun hle => ?_, fun hgt => ?_⟩
  · -- the check on the order of the first three
    have hne : ¬(cnt ≠ f.word off / 512) := fun hne => h₂ ⟨hle, hne⟩
    exact (Decidable.not_not.mp hne).symm
  · -- the check on later TLVs
    have hnot : ¬(f.word off / 512 = 1 ∨ f.word off / 512 = 2 ∨ f.word off / 512 = 3) :=
      fun hor => h₃ ⟨hgt, hor⟩
    exact ⟨fun h => hnot (.inl h), fun h => hnot (.inr (.inl h)), fun h => hnot (.inr (.inr h))⟩

/-! ### What an agent knows of its neighbours -/

/-- The part of an agent that is about its neighbours. -/
structure Neighbour where
  msap : Msap
  remote : Msap
  tooManyNghbrs : Bool
  tooManyNghbrsTimer : Nat
  rxTTL : Nat
  lastrxTTL : Nat
  loads : List TtlLoad

/-- What the TLVs of a frame so far have in common with the record. -/
structure Matches where
  compare1 : Bool := false
  compare2 : Bool := false
  good : Bool := false

/-- What the agent knows of its neighbours. -/
def LldpAgent.neighbour (a : LldpAgent) : Neighbour :=
  { msap := a.msap
    remote := a.history.remote
    tooManyNghbrs := a.rx.tooManyNghbrs
    tooManyNghbrsTimer := a.timers.tooManyNghbrsTimer
    rxTTL := a.timers.rxTTL
    lastrxTTL := a.timers.lastrxTTL
    loads := a.history.loads }

/-- The comparisons in the locals of `rxProcessFrame`. -/
def RxLocals.matches (l : RxLocals) : Matches :=
  { compare1 := l.msapCompare1, compare2 := l.msapCompare2, good := l.goodNeighbor }

namespace Neighbour

/-- A chassis ID is seen: it is recorded, or compared with the recorded one. -/
def seeChassisId (id : Bytes) (x : Neighbour × Matches) : Neighbour × Matches :=
  let (nb, m) := x
  match nb.msap.msap1 with
  | none =>
    ({ nb with
      msap := { nb.msap with length1 := id.length, msap1 := some id }
      remote := if nb.remote.msap1 = none then
        { nb.remote with length1 := id.length, msap1 := some id } else nb.remote }, m)
  | some id' =>
    (nb, if id.length = nb.msap.length1 ∧ id = id' then { m with compare1 := true } else m)

/-- A port ID is seen: it is recorded, or compared with the recorded one. Unless both
identifiers match the record, the frame is from one neighbour too many. -/
def seePortId (id : Bytes) (x : Neighbour × Matches) : Neighbour × Matches :=
  let (nb, m) := x
  match nb.msap.msap2 with
  | none =>
    ({ nb with
      msap := { nb.msap with length2 := id.length, msap2 := some id }
      remote := if nb.remote.msap2 = none then
        { nb.remote with length2 := id.length, msap2 := some id } else nb.remote }, m)
  | some id' =>
    let m := if id.length = nb.msap.length2 ∧ id = id' then { m with compare2 := true } else m
    if m.compare1 = true ∧ m.compare2 = true then (nb, { good := true })
    else ({ nb with tooManyNghbrs := true }, m)

/-- A time to live is seen: it is loaded, or it extends the time for which there are too
many neighbours. -/
def seeTtl (adminStatus : AdminStatus) (f : Frame) (x : Neighbour × Matches) :
    Neighbour × Matches :=
  let (nb, m) := x
  if nb.tooManyNghbrs = true ∧ m.good = false then
    ({ nb with tooManyNghbrsTimer := max f.ttl nb.tooManyNghbrsTimer }, { good := m.good })
  else
    ({ nb with
      rxTTL := f.ttl
      lastrxTTL := f.ttl
      loads := { frame := f, adminStatus := adminStatus, msap := nb.msap } :: nb.loads },
      { m with good := false })

end Neighbour

/-- What the agent knows of its neighbours after the first `n` TLVs of a frame. -/
def see (adminStatus : AdminStatus) (f : Frame) (nb : Neighbour) : Nat → Neighbour × Matches
  | 0 => (nb, {})
  | 1 => Neighbour.seeChassisId f.chassisId (nb, {})
  | 2 => Neighbour.seePortId f.portId (Neighbour.seeChassisId f.chassisId (nb, {}))
  | _ + 3 => Neighbour.seeTtl adminStatus f
      (Neighbour.seePortId f.portId (Neighbour.seeChassisId f.chassisId (nb, {})))

/-! ### The modules alone -/

/-- The modules while they are offered the TLVs of a frame: their data, what they see of
the agent and the TLVs they released, latest first. -/
structure Offer (μ : Type) where
  modules : μ
  view : AgentView
  freed : List Nat

/-- The core marks a type that it keeps. -/
def Offer.mark (o : Offer μ) (type : Nat) : Offer μ :=
  if coreType type then
    { o with view := { o.view with lldpdu := o.view.lldpdu ||| rcvdBit type } }
  else o

/-- A module has answered. -/
def Offer.answered (o : Offer μ) (r : RchangeResult μ) : Offer μ :=
  let lldpdu := if r.dcbx1 then o.view.lldpdu ||| rcvdDcbx1 else o.view.lldpdu
  let lldpdu := if r.dcbx2 then lldpdu ||| rcvdDcbx2 else lldpdu
  { modules := r.modules
    view := { o.view with
      lldpdu := lldpdu
      dupTlvs := o.view.dupTlvs ||| r.dupTlvs
      dcbxSt := r.dcbxSt.getD o.view.dcbxSt }
    freed := r.freed ++ o.freed }

/-- A TLV is offered to the modules in turn. -/
def offerAll (p : Port) : List (LldpModule μ) → Offer μ → UnpackedTlv → Bool →
    Offer μ × Option Bool
  | [], o, _, stored => (o, some stored)
  | np :: nps, o, tlv, stored =>
    match np.rchange with
    | none => offerAll p nps o tlv stored
    | some f =>
      let r := f p o.view o.modules tlv
      match r.answer with
      | .tlvOk => offerAll p nps (o.answered r) tlv true
      | .tlvErr => (o.answered r, none)
      | .subtypeInvalid => offerAll p nps (o.answered r) tlv stored

/-- What became of a frame: the modules in the end, the TLVs that were taken with the flag
whether anyone keeps them, the TLV that a module rejected and whether there was an error. -/
structure Outcome (μ : Type) where
  offer : Offer μ
  taken : List (UnpackedTlv × Bool) := []
  rejected : Option UnpackedTlv := none
  error : Bool

namespace Outcome

/-- The TLVs that were created. -/
def created (o : Outcome μ) : List UnpackedTlv := o.taken.map Prod.fst ++ o.rejected.toList

/-- The TLVs that the core released while it went through the frame: those that nobody
keeps, and the one that was rejected. -/
def released (o : Outcome μ) : List Nat :=
  ((o.taken.filter fun x => !x.2).map fun x => x.1.ref) ++ o.rejected.toList.map (·.ref)

/-- The number of TLVs that nobody keeps. -/
def unkept (o : Outcome μ) : Nat := (o.taken.filter fun x => !x.2).length

/-- One more TLV in front. -/
def cons (x : UnpackedTlv × Bool) (o : Outcome μ) : Outcome μ := { o with taken := x :: o.taken }

end Outcome

/-- The modules are offered the TLVs of a frame from TLV `n` on, under handles from `ref`
on. -/
def replay (env : Env μ) (p : Port) (f : Frame) : Nat → Nat → Nat → Offer μ → Outcome μ
  | 0, _, _, o => { offer := o, error := true }
  | fuel + 1, n, ref, o =>
    if f.valid n then
      let tlv := f.tlv n ref
      match offerAll p env.modules (o.mark tlv.type) tlv (coreType tlv.type) with
      | (o, none) => { offer := o, rejected := some tlv, error := true }
      | (o, some stored) =>
        if tlv.type = 0 then { offer := o, taken := [(tlv, stored)], error := false }
        else (replay env p f fuel (n + 1) (ref + 1) o).cons (tlv, stored)
    else { offer := o, error := true }

/-! ### One step of the replay -/

section

variable {env : Env μ} {p : Port} {f : Frame} {fuel n ref : Nat} {o o' : Offer μ}

theorem replay_invalid (h : f.valid n = false) :
    replay env p f (fuel + 1) n ref o = { offer := o, error := true } := by
  rw [replay, h]
  rfl

theorem replay_rejected (h : f.valid n = true)
    (hoffer : offerAll p env.modules (o.mark (f.tlvType n)) (f.tlv n ref)
      (coreType (f.tlvType n)) = (o', none)) :
    replay env p f (fuel + 1) n ref o
      = { offer := o', rejected := some (f.tlv n ref), error := true } := by
  have hoffer' : offerAll p env.modules (o.mark (f.tlv n ref).type) (f.tlv n ref)
    (coreType (f.tlv n ref).type) = (o', none) := hoffer
  rw [replay, if_pos h]
  simp only [hoffer']

theorem replay_taken (h : f.valid n = true) {stored : Bool}
    (hoffer : offerAll p env.modules (o.mark (f.tlvType n)) (f.tlv n ref)
      (coreType (f.tlvType n)) = (o', some stored)) :
    replay env p f (fuel + 1) n ref o =
      if f.tlvType n = 0 then
        { offer := o', taken := [(f.tlv n ref, stored)], error := false }
      else (replay env p f fuel (n + 1) (ref + 1) o').cons (f.tlv n ref, stored) := by
  have hoffer' : offerAll p env.modules (o.mark (f.tlv n ref).type) (f.tlv n ref)
    (coreType (f.tlv n ref).type) = (o', some stored) := hoffer
  rw [replay, if_pos h]
  simp only [hoffer']
  rfl

end

namespace Outcome

@[simp] theorem cons_offer (x : UnpackedTlv × Bool) (o : Outcome μ) :
    (o.cons x).offer = o.offer := rfl

@[simp] theorem cons_error (x : UnpackedTlv × Bool) (o : Outcome μ) :
    (o.cons x).error = o.error := rfl

@[simp] theorem cons_created (x : UnpackedTlv × Bool) (o : Outcome μ) :
    (o.cons x).created = x.1 :: o.created := rfl

theorem cons_released (x : UnpackedTlv × Bool) (o : Outcome μ) :
    (o.cons x).released = (if x.2 then [] else [x.1.ref]) ++ o.released := by
  obtain ⟨tlv, stored⟩ := x
  cases stored <;> simp [released, cons]

theorem cons_unkept (x : UnpackedTlv × Bool) (o : Outcome μ) :
    (o.cons x).unkept = (if x.2 then 0 else 1) + o.unkept := by
  obtain ⟨tlv, stored⟩ := x
  cases stored <;> simp [unkept, cons, Nat.add_comm]

end Outcome

end Lldpad.Lldp
