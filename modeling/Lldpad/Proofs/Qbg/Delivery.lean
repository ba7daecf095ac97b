import Lldpad.Proofs.Qbg.AckTimer
import Lldpad.Proofs.Qbg.Ecp22Sender

/-!
# `Lldpad.Proofs.Qbg.Delivery`: what a receiver hands up

A sender has at most one payload on its way, and a receiver drops a request that carries the
sequence number of the last one. So the payloads that the receiver hands up are some of the
sender's, in order and each once, as long as a sequence number stands for one payload at a
time. There are 65535 of them. When the sender gives up that many payloads in a row, the
next one looks like the last one that was handed up.

* `DeliveredAs`, `Delivered`: what is handed up, and what is acknowledged.
* `Confuses`: a frame of one payload is taken for a frame of another.
* `LinkInv`, `linkStep_inv`: what every step that confuses nothing keeps.
* `delivered_of_unambiguous`: runs in which nothing is confused.
* `LinkInv.confuses_many`: it takes more than 65535 payloads.
-/

namespace Lldpad.Qbg

open Lldpad.Lib
open Lldpad.Lldp (Bytes Port ethHlen ethFrameLen)

/-! ### The property -/

/-- The payloads that were handed up are some of those that were queued, in order and each
once, and every payload whose acknowledgement was accepted is among them. `seen` is what the
upper layer sees of a payload. -/
def DeliveredAs (seen : Bytes → Bytes) (l : Ecp22Link) : Prop :=
  ∃ places : List Nat, places.Pairwise (· < ·) ∧
    (∀ i ∈ places, i < l.sender.trace.queued.length) ∧
    l.receiver.ulp.map Ecp22ToUlp.payload
      = places.map (fun i => seen (l.sender.trace.queued.getD i [])) ∧
    ∀ i ∈ l.sender.trace.acked, i ∈ places

/-- The upper layer sees payloads that are padded to the smallest frame. -/
def Delivered (l : Ecp22Link) : Prop := DeliveredAs padded l

/-- The sequence number in a frame. -/
def Flight.seqno (f : Flight) : UInt16 := ntohs f.frame (ethHlen + 2)

/-- A frame of one payload is taken for a frame of another: a request for the one that was
handed up last, or an acknowledgement for that of the payload in the transmit buffer. -/
def Confuses (l : Ecp22Link) : LinkEvent → Prop
  | .request => ∃ f j, l.requests.head? = some f ∧ l.handed.getLast? = some j ∧
      f.seqno = l.receiver.ecp.rx.lastSeqno ∧ f.place ≠ j
  | .ack => ∃ f, l.acks.head? = some f ∧ l.sender.ecp.tx.ecpduReceived = true ∧
      f.seqno = l.sender.ecp.tx.seqno ∧ f.place ≠ l.sender.trace.built - 1
  | _ => False

/-! ### The invariant -/

/-- The acknowledgement of payload `k`. -/
def IsAck (k : Nat) (frame : Bytes) : Prop :=
  ∃ before : Bytes, before.length = ethHlen ∧
    frame = before ++ htons ecp22AckHdr ++ (htons (seqOf k) ++ [])

/-- What holds of a link between two events. -/
structure LinkInv (l : Ecp22Link) : Prop where
  senderRest : Ecp22Rest l.sender
  ledger : Ledger l.sender.trace.built l.sender
  numbered : Numbered true l.sender
  places : l.sender.trace.places = []
  receiverUp : LinkUp l.receiver
  receiverRest : RxRest l.receiver
  receiverState : l.receiver.ecp.rx.state = if l.handed = [] then .rxWait else .rxWait2
  lastSeqno : ∀ j, l.handed.getLast? = some j → l.receiver.ecp.rx.lastSeqno = seqOf j
  receiverWire : l.receiver.wire = []
  handedOrder : l.handed.Pairwise (· < ·)
  handedLt : ∀ i ∈ l.handed, i < l.sender.trace.built
  ulp : l.receiver.ulp.map Ecp22ToUlp.payload
    = l.handed.map fun i => padded (l.sender.trace.queued.getD i [])
  requests : ∀ f ∈ l.requests, f.place < l.sender.trace.built ∧
    f.frame = l.sender.frameOf f.place ∧ ∀ j ∈ l.handed, j ≤ f.place
  requestsOrder : l.requests.Pairwise fun f g => f.place ≤ g.place
  acks : ∀ f ∈ l.acks, f.place ∈ l.handed ∧ IsAck f.place f.frame
  acked : ∀ i ∈ l.sender.trace.acked, i ∈ l.handed

variable {l : Ecp22Link} {c : Ecp22Ctx} {f : Flight} {fs : List Flight}

theorem LinkInv.delivered (h : LinkInv l) : Delivered l :=
  ⟨l.handed, h.handedOrder,
    fun i hi => Nat.lt_of_lt_of_le (h.handedLt i hi) h.ledger.built_le, h.ulp, h.acked⟩

/-! ### The sender's steps -/

theorem getD_of_prefix {xs ys : List Bytes} (h : xs <+: ys) {i : Nat} (hi : i < xs.length) :
    ys.getD i [] = xs.getD i [] := by
  obtain ⟨zs, rfl⟩ := h
  exact List.getD_append _ _ _ _ hi

/-- What the sender does with an event. -/
structure SenderDid (l : Ecp22Link) (c : Ecp22Ctx) : Prop where
  rest : Ecp22Rest c
  ledger : Ledger l.sender.trace.built c
  numbered : Numbered true c
  ownSrcAddr : c.ownSrcAddr = l.sender.ownSrcAddr
  queued : l.sender.trace.queued <+: c.trace.queued
  acked : ∀ i ∈ c.trace.acked, i ∈ l.handed

/-- What the sender sends is entered on the wire. -/
theorem SenderDid.inv (h : LinkInv l) (hc : SenderDid l c) :
    LinkInv { l with
      sender := { c with wire := [], trace := { c.trace with places := [] } }
      requests := l.requests ++ (List.zipWith Flight.mk c.trace.places c.wire).reverse } := by
  have hbuilt := hc.ledger.since_le
  have hle : l.sender.trace.built ≤ l.sender.trace.queued.length := h.ledger.built_le
  have hold : ∀ i, i < l.sender.trace.built →
      c.trace.queued.getD i [] = l.sender.trace.queued.getD i [] := fun i hi =>
    getD_of_prefix hc.queued (Nat.lt_of_lt_of_le hi hle)
  have hflights : List.zipWith Flight.mk c.trace.places c.wire
      = c.trace.places.map fun i => ⟨i, c.frameOf i⟩ := by
    rw [hc.ledger.wire, List.zipWith_map_right, List.zipWith_self]
  have hnew : ∀ f ∈ (List.zipWith Flight.mk c.trace.places c.wire).reverse,
      f.place ∈ c.trace.places ∧ f.frame = c.frameOf f.place := by
    intro f hf
    rw [List.mem_reverse, hflights] at hf
    obtain ⟨i, hi, rfl⟩ := List.mem_map.mp hf
    exact ⟨hi, rfl⟩
  have hframes : ∀ i, i < l.sender.trace.built → l.sender.frameOf i = c.frameOf i := by
    intro i hi
    rw [Ecp22Ctx.frameOf, Ecp22Ctx.frameOf, hc.ownSrcAddr, hold i hi]
  refine ⟨⟨hc.rest.tx.congr rfl, hc.rest.rx.congr rfl⟩, ?_, hc.numbered, rfl, h.receiverUp,
    h.receiverRest, h.receiverState, h.lastSeqno, h.receiverWire, h.handedOrder,
    fun i hi => Nat.lt_of_lt_of_le (h.handedLt i hi) hbuilt, ?_, ?_, ?_, h.acks, hc.acked⟩
  · exact ⟨hc.ledger.up, hc.ledger.inuse, hc.ledger.built_le, hc.ledger.fits, Nat.le_refl _, rfl,
      List.Pairwise.nil, List.forall_mem_nil _⟩
  · rw [h.ulp]
    refine List.map_congr_left fun i hi => ?_
    show padded (l.sender.trace.queued.getD i []) = padded (c.trace.queued.getD i [])
    rw [hold i (h.handedLt i hi)]
  · intro f hf
    rcases List.mem_append.mp hf with hf | hf
    · obtain ⟨hlt, hframe, hlast⟩ := h.requests f hf
      exact ⟨Nat.lt_of_lt_of_le hlt hbuilt, hframe.trans (hframes _ hlt), hlast⟩
    · obtain ⟨hplace, hframe⟩ := hnew f hf
      obtain ⟨hlow, hhigh⟩ := hc.ledger.range _ hplace
      refine ⟨hhigh, hframe, fun j hj => ?_⟩
      have := h.handedLt j hj
      omega
  · refine List.pairwise_append.mpr ⟨h.requestsOrder, ?_, fun f hf g hg => ?_⟩
    · rw [List.pairwise_reverse, hflights, List.pairwise_map]
      exact hc.ledger.order
    · have hlt := (h.requests f hf).1
      have hlow := (hc.ledger.range _ (hnew g hg).1).1
      omega

theorem LinkInv.did_nothing (h : LinkInv l) : SenderDid l l.sender :=
  ⟨h.senderRest, h.ledger, h.numbered, rfl, List.prefix_rfl, h.acked⟩

theorem SenderDid.txRun {c c' : Ecp22Ctx} (h : SenderDid l c)
    (hrun : ecp22TxRunSm c = .ok c') : SenderDid l c' := by
  obtain ⟨hledger, hnumbered⟩ := ecp22TxRunSm_ledger h.ledger h.numbered hrun
  obtain ⟨hqueued, hacked⟩ := ecp22TxRunSm_trace hrun
  obtain ⟨-, -, haddr⟩ := ecp22TxRunSm_rx hrun
  refine ⟨h.rest.txRun hrun, hledger, hnumbered, haddr.trans h.ownSrcAddr, ?_, ?_⟩
  · rw [hqueued]
    exact h.queued
  · rw [hacked]
    exact h.acked

theorem LinkInv.did_queue (h : LinkInv l) {du : Bytes}
    (hfit : du.length < ecp22MaxpayloadLen) : SenderDid l (l.sender.queue du) := by
  have hle := h.ledger.built_le
  have hprefix : l.sender.trace.queued <+: (l.sender.queue du).trace.queued :=
    List.prefix_append _ _
  refine ⟨⟨h.senderRest.tx.congr (queue_tx _ _), h.senderRest.rx.congr (queue_rx _ _)⟩, ?_, ?_, rfl,
    hprefix, h.acked⟩
  · refine ⟨h.ledger.up, ?_, ?_, ?_, Nat.le_refl _, ?_, h.ledger.order, h.ledger.range⟩
    · rw [queue_inuse, h.ledger.inuse]
      show _ = ((l.sender.trace.queued ++ [du]).drop l.sender.trace.built).map payloadNode
      rw [List.drop_append_of_le_length hle, List.map_append]
      rfl
    · exact Nat.le_trans hle hprefix.length_le
    · intro x hx
      rcases List.mem_append.mp hx with hx | hx
      · exact h.ledger.fits x hx
      · rw [List.mem_singleton.mp hx]
        exact hfit
    · show l.sender.wire = l.sender.trace.places.map _
      rw [h.ledger.wire, h.places]
      rfl
  · have hn := h.numbered
    unfold Numbered at hn ⊢
    rw [queue_tx]
    split
    all_goals
      rename_i hs
      rw [hs] at hn
      try exact hn
    -- the frame in the buffer is that of a payload that was queued before
    obtain ⟨hpos, hseq, hframe⟩ := hn
    refine ⟨hpos, hseq, hframe.trans ?_⟩
    have hlt : l.sender.trace.built - 1 < l.sender.trace.queued.length := by omega
    have hsame := getD_of_prefix hprefix hlt
    show l.sender.frameOf (l.sender.trace.built - 1)
      = (l.sender.queue du).frameOf (l.sender.trace.built - 1)
    rw [Ecp22Ctx.frameOf, Ecp22Ctx.frameOf, hsame]
    rfl

theorem LinkInv.payload (h : LinkInv l) {du : Bytes}
    (hstep : ecp22Step l.sender (.payload du) = .ok c) : SenderDid l c := by
  rcases payload_cases hstep with rfl | ⟨hfit, ⟨-, hrun⟩ | rfl⟩
  · exact h.did_nothing
  · exact (h.did_queue hfit).txRun hrun
  · exact h.did_queue hfit

theorem LinkInv.ackTimeout (h : LinkInv l) {i : Nat}
    (hstep : ecp22Step l.sender (.ackTimeout i) = .ok c) : SenderDid l c := by
  rcases ackTimeout_cases hstep with rfl | ⟨t, -, hrun⟩
  · exact h.did_nothing
  · have hexpired : SenderDid l (l.sender.expired i t) :=
      ⟨⟨h.senderRest.tx.congr rfl, h.senderRest.rx.congr rfl⟩,
        h.ledger.congr h.ledger.up rfl rfl rfl rfl rfl rfl, h.numbered, rfl,
        List.prefix_rfl, h.acked⟩
    exact hexpired.txRun hrun

theorem LinkInv.fromEvb (h : LinkInv l) (maxRetry maxRte : UInt8) :
    SenderDid l (ecp22DataFromEvb maxRetry maxRte l.sender) :=
  ⟨⟨h.senderRest.tx.congr rfl, h.senderRest.rx.congr rfl⟩,
    h.ledger.congr h.ledger.up rfl rfl rfl rfl rfl rfl, h.numbered, rfl, List.prefix_rfl, h.acked⟩

/-! ### Frames that arrive -/

theorem flight_seqno {before after : Bytes} {h s : UInt16}
    (hlen : before.length = ethHlen) (hf : f.frame = before ++ htons h ++ (htons s ++ after)) :
    f.seqno = s := by
  have hlen' : (before ++ htons h).length = ethHlen + 2 := by
    rw [List.length_append, hlen]
    rfl
  rw [Flight.seqno, hf, ← List.append_assoc, ← hlen']
  exact ntohs_htons _ _ s

theorem LinkInv.ack (h : LinkInv l) (hacks : l.acks = f :: fs) (hclear : ¬Confuses l .ack)
    (hstep : ecp22Step l.sender (.frame f.frame) = .ok c) : SenderDid l c := by
  obtain ⟨hmem, before, hlen, hframe⟩ := h.acks f (hacks ▸ List.mem_cons_self ..)
  obtain ⟨p, hp, -⟩ := h.ledger.up
  have hseqno : f.seqno = seqOf f.place := flight_seqno hlen hframe
  have hfit : f.frame.length ≤ ethFrameLen := by
    rw [hframe, List.length_append, List.length_append, List.length_append, hlen]
    show 14 + 2 + (2 + 0) ≤ 1514
    decide
  have hreceive := receive_ack hp h.senderRest.rx hfit (stored_hdr hlen hframe)
  have hrest := ecp22Step_rest h.senderRest hstep
  obtain rfl : ecp22RecackFrame (l.sender.stored f.frame) (seqOf f.place) = c :=
    Except.ok.inj (hreceive.symm.trans hstep)
  unfold ecp22RecackFrame at hrest ⊢
  by_cases haccept : (l.sender.stored f.frame).ecp.tx.ecpduReceived = true ∧
      (l.sender.stored f.frame).ecp.tx.seqno = seqOf f.place
  · rw [if_pos haccept] at hrest ⊢
    refine ⟨hrest, h.ledger.congr h.ledger.up rfl rfl rfl rfl rfl rfl, h.numbered, rfl,
      List.prefix_rfl, fun i hi => ?_⟩
    rcases List.mem_append.mp hi with hi | hi
    · exact h.acked i hi
    · obtain rfl := List.mem_singleton.mp hi
      have hplace : f.place = l.sender.trace.built - 1 := by
        refine Decidable.byContradiction fun hne => hclear ⟨f, ?_, haccept.1, ?_, hne⟩
        · rw [hacks]
          rfl
        · exact hseqno.trans haccept.2.symm
      show l.sender.trace.built - 1 ∈ l.handed
      rw [← hplace]
      exact hmem
  · rw [if_neg haccept] at hrest ⊢
    exact ⟨hrest, h.ledger.congr h.ledger.up rfl rfl rfl rfl rfl rfl, h.numbered, rfl,
      List.prefix_rfl, h.acked⟩

theorem LinkInv.request_frame (h : LinkInv l) (hf : f ∈ l.requests) :
    f.seqno = seqOf f.place ∧ f.frame.length ≤ ethFrameLen ∧
      ethHlen + ecp22HdrLen ≤ f.frame.length ∧
      f.frame.drop (ethHlen + ecp22HdrLen) = padded (l.sender.trace.queued.getD f.place []) ∧
      ∀ c : Ecp22Ctx, (c.stored f.frame).rxVerOpSub = ecp22RequestHdr ∧
        (c.stored f.frame).rxHdrSeqno = seqOf f.place := by
  obtain ⟨hlt, hframe, -⟩ := h.requests f hf
  have hplace : f.place < l.sender.trace.queued.length :=
    Nat.lt_of_lt_of_le hlt h.ledger.built_le
  have hfit : (payloadNode (l.sender.trace.queued.getD f.place [])).ptlv.length
      < ecp22MaxpayloadLen := by
    show (l.sender.trace.queued.getD f.place []).length < _
    rw [List.getD_eq_getElem _ _ hplace]
    exact h.ledger.fits _ (List.getElem_mem hplace)
  obtain ⟨before, after, hlen, heq, -⟩ := requestFrame_eq l.sender.ownSrcAddr (seqOf f.place)
    (payloadNode (l.sender.trace.queued.getD f.place []))
  have hsplit : f.frame = before ++ htons ecp22RequestHdr ++ (htons (seqOf f.place) ++ after) :=
    hframe.trans heq
  refine ⟨flight_seqno hlen hsplit, ?_, ?_, ?_, fun c => stored_hdr hlen hsplit⟩
  · rw [hframe]
    exact requestFrame_fits _ _ hfit
  · rw [hframe, Ecp22Ctx.frameOf, requestFrame_length]
    exact Nat.le_add_right _ _
  · rw [hframe]
    exact requestFrame_drop _ _ _

theorem LinkInv.isNew_iff (h : LinkInv l)
    (hrequests : l.requests = f :: fs) (hclear : ¬Confuses l .request) :
    l.receiver.isNew (seqOf f.place) ↔ l.handed.getLast? ≠ some f.place := by
  have hmem : f ∈ l.requests := hrequests ▸ List.mem_cons_self ..
  have hseqno := (h.request_frame hmem).1
  have hstate := h.receiverState
  cases hlast : l.handed.getLast? with
  | none =>
    rw [if_pos (List.getLast?_eq_none_iff.mp hlast)] at hstate
    exact ⟨fun _ => nofun, fun _ => .inl hstate⟩
  | some j =>
    have hne : l.handed ≠ [] := by
      intro hnil
      rw [hnil] at hlast
      exact absurd hlast nofun
    rw [if_neg hne] at hstate
    have hnumber := h.lastSeqno j hlast
    constructor
    · rintro (hwait | hdiff) heq
      · exact absurd (hstate.symm.trans hwait) nofun
      · rw [hnumber, Option.some.inj heq] at hdiff
        exact hdiff rfl
    · intro hdiff
      refine .inr fun heq => hclear ⟨f, j, ?_, hlast, hseqno.trans heq, fun hplace => ?_⟩
      · rw [hrequests]
        rfl
      · exact hdiff (congrArg some hplace.symm)

theorem getLast_lt {handed : List Nat} {k : Nat} (horder : handed.Pairwise (· < ·))
    (hle : ∀ j ∈ handed, j ≤ k) (hlast : handed.getLast? ≠ some k) : ∀ j ∈ handed, j < k := by
  intro j hj
  refine Nat.lt_of_le_of_ne (hle j hj) fun heq => hlast ?_
  subst heq
  obtain ⟨before, after, rfl⟩ := List.append_of_mem hj
  cases after with
  | nil => exact List.getLast?_concat
  | cons i after =>
    -- what stands behind the largest place would be larger
    have hlt := (List.pairwise_cons.mp (List.pairwise_append.mp horder).2.1).1 i
      (List.mem_cons_self ..)
    have hge := hle i (List.mem_append_right _ (List.mem_cons_of_mem _ (List.mem_cons_self ..)))
    omega

/-- The receiver takes a request. It hands the payload up if it is not the last one again. -/
theorem LinkInv.request (h : LinkInv l)
    (hrequests : l.requests = f :: fs) (hclear : ¬Confuses l .request) {l' : Ecp22Link}
    (hstep : { l with requests := fs }.receiveStep f = .ok l') : LinkInv l' := by
  have hmem : f ∈ l.requests := hrequests ▸ List.mem_cons_self ..
  have horder := h.requestsOrder
  rw [hrequests] at horder
  obtain ⟨hfirst, horder⟩ := List.pairwise_cons.mp horder
  obtain ⟨hlt, hframe, hbefore⟩ := h.requests f hmem
  obtain ⟨-, hfit, hmin, hdrop, hhdr⟩ := h.request_frame hmem
  obtain ⟨p, hp, hpe⟩ := h.receiverUp
  have hwait : l.receiver.ecp.rx.state ≠ .rxBegin := by
    rw [h.receiverState]
    split <;> nofun
  obtain ⟨d, hreceive, hd⟩ := receive_request hp hpe h.receiverRest hwait hfit (hhdr l.receiver)
  obtain ⟨before, hlen, hack⟩ := ackFrame_eq (hhdr l.receiver)
    (Nat.le_trans (Nat.le_add_right _ _) hmin)
  have hnew := h.isNew_iff hrequests hclear
  -- what the receiver has handed up afterwards, and that the payload of `f` is among it
  let handed := l.handed ++ List.replicate (d.ulp.length - l.receiver.ulp.length) f.place
  obtain rfl : l' = { l with
      requests := fs
      receiver := { d with wire := [] }
      acks := l.acks ++ d.wire.reverse.map (Flight.mk f.place)
      handed := handed } := by
    have hok : ecp22Step l.receiver (.frame f.frame) = .ok d := hreceive
    unfold Ecp22Link.receiveStep at hstep
    dsimp only at hstep
    rw [hok, bind_ok] at hstep
    cases hstep
    rfl
  have hcases : (l.handed.getLast? = some f.place ∧ d.ulp = l.receiver.ulp ∧ handed = l.handed) ∨
      (l.handed.getLast? ≠ some f.place ∧
        d.ulp = l.receiver.ulp ++ [(l.receiver.stored f.frame).up] ∧
        handed = l.handed ++ [f.place]) := by
    have hulp := hd.ulp
    by_cases hlast : l.handed.getLast? = some f.place
    · rw [if_neg fun hn => hnew.mp hn hlast] at hulp
      refine .inl ⟨hlast, hulp, ?_⟩
      show l.handed ++ List.replicate (d.ulp.length - l.receiver.ulp.length) f.place = _
      rw [hulp, Nat.sub_self]
      exact List.append_nil _
    · rw [if_pos (hnew.mpr hlast)] at hulp
      refine .inr ⟨hlast, hulp, ?_⟩
      show l.handed ++ List.replicate (d.ulp.length - l.receiver.ulp.length) f.place = _
      rw [hulp, List.length_append, Nat.add_sub_cancel_left]
      rfl
  have hlastplace : handed.getLast? = some f.place := by
    rcases hcases with ⟨hlast, -, hsame⟩ | ⟨-, -, hmore⟩
    · rw [hsame]
      exact hlast
    · rw [hmore]
      exact List.getLast?_concat
  have hplace : f.place ∈ handed := List.mem_of_getLast? hlastplace
  have hsub : ∀ i, i ∈ l.handed → i ∈ handed := fun i hi => List.mem_append_left _ hi
  have hrange : ∀ i ∈ handed, i ≤ f.place := by
    intro i hi
    rcases hcases with ⟨-, -, hsame⟩ | ⟨-, -, hmore⟩
    · rw [hsame] at hi
      exact hbefore i hi
    · rw [hmore] at hi
      rcases List.mem_append.mp hi with hi | hi
      · exact hbefore i hi
      · exact Nat.le_of_eq (List.mem_singleton.mp hi)
  refine ⟨h.senderRest, h.ledger, h.numbered, h.places, ⟨p, hd.sameTx.port.trans hp, hpe⟩,
    ⟨hd.rest.rests, hd.rest.free⟩, ?_, ?_, rfl, ?_,
    fun i hi => Nat.lt_of_le_of_lt (hrange i hi) hlt,
    ?_, fun g hg => ?_, horder, fun g hg => ?_, fun i hi => hsub i (h.acked i hi)⟩
  · show d.ecp.rx.state = if handed = [] then _ else _
    rw [if_neg (List.ne_nil_of_mem hplace)]
    exact hd.state
  · intro j hj
    rw [hlastplace] at hj
    rw [← Option.some.inj hj]
    exact hd.lastSeqno
  · show handed.Pairwise (· < ·)
    rcases hcases with ⟨-, -, hsame⟩ | ⟨hlast, -, hmore⟩
    · rw [hsame]
      exact h.handedOrder
    · rw [hmore]
      refine List.pairwise_append.mpr ⟨h.handedOrder, List.pairwise_singleton ..,
        fun i hi j hj => ?_⟩
      rw [List.mem_singleton.mp hj]
      exact getLast_lt h.handedOrder hbefore hlast i hi
  · show d.ulp.map Ecp22ToUlp.payload = handed.map _
    rcases hcases with ⟨-, hulp, hsame⟩ | ⟨-, hulp, hmore⟩
    · rw [hulp, hsame]
      exact h.ulp
    · rw [hulp, hmore, List.map_append, List.map_append, h.ulp]
      refine congrArg _ ?_
      show [((l.receiver.stored f.frame).up).payload] = [_]
      rw [up_payload hmin hfit, hdrop]
  · obtain ⟨hg1, hg2, -⟩ := h.requests g (hrequests ▸ List.mem_cons_of_mem _ hg)
    exact ⟨hg1, hg2, fun i hi => Nat.le_trans (hrange i hi) (hfirst g hg)⟩
  · rcases List.mem_append.mp hg with hg | hg
    · obtain ⟨hold, hisack⟩ := h.acks g hg
      exact ⟨hsub _ hold, hisack⟩
    · obtain ⟨frame, hf, rfl⟩ := List.mem_map.mp hg
      rw [List.mem_reverse, hd.wire, h.receiverWire, List.mem_singleton] at hf
      exact ⟨hplace, before, hlen, hf.trans hack⟩

/-! ### The wire -/

theorem mem_duplicateFlight {i : Nat} (h : f ∈ duplicateFlight fs i) : f ∈ fs := by
  rcases List.mem_append.mp h with h | h
  · exact List.mem_of_mem_take h
  · exact List.mem_of_mem_drop h

theorem duplicateFlight_order {i : Nat} (h : fs.Pairwise fun f g => f.place ≤ g.place) :
    (duplicateFlight fs i).Pairwise fun f g => f.place ≤ g.place := by
  induction fs generalizing i with
  | nil =>
    rw [duplicateFlight, List.take_nil, List.drop_nil]
    exact List.Pairwise.nil
  | cons f fs ih =>
    obtain ⟨hfirst, hrest⟩ := List.pairwise_cons.mp h
    cases i with
    | zero =>
      refine List.pairwise_cons.mpr ⟨fun g hg => ?_, h⟩
      rcases List.mem_cons.mp hg with rfl | hg
      · exact Nat.le_refl _
      · exact hfirst g hg
    | succ i =>
      exact List.pairwise_cons.mpr ⟨fun g hg => hfirst g (mem_duplicateFlight hg), ih hrest⟩

theorem LinkInv.wire (h : LinkInv l) {requests acks : List Flight}
    (hrequests : ∀ f ∈ requests, f ∈ l.requests)
    (horder : requests.Pairwise fun f g => f.place ≤ g.place) (hacks : ∀ f ∈ acks, f ∈ l.acks) :
    LinkInv { l with requests := requests, acks := acks } :=
  ⟨h.senderRest, h.ledger, h.numbered, h.places, h.receiverUp, h.receiverRest, h.receiverState,
    h.lastSeqno, h.receiverWire, h.handedOrder, h.handedLt, h.ulp,
    fun f hf => h.requests f (hrequests f hf), horder, fun f hf => h.acks f (hacks f hf), h.acked⟩

/-! ### Every run -/

theorem LinkInv.sendStep {l l' : Ecp22Link} {e : Ecp22Event} (h : LinkInv l)
    (hdid : ∀ c, ecp22Step l.sender e = .ok c → SenderDid l c) (hstep : l.sendStep e = .ok l') :
    LinkInv l' := by
  obtain ⟨c, hc, hl⟩ := bind_eq_ok.mp hstep
  cases hl
  exact (hdid c hc).inv h

/-- A step that confuses nothing keeps the invariant. -/
theorem linkStep_inv {l l' : Ecp22Link} {e : LinkEvent} (h : LinkInv l) (hclear : ¬Confuses l e)
    (hstep : linkStep l e = .ok l') : LinkInv l' := by
  cases e with
  | payload du => exact h.sendStep (fun c hc => h.payload hc) hstep
  | ackTimeout i => exact h.sendStep (fun c hc => h.ackTimeout hc) hstep
  | fromEvb maxRetry maxRte =>
    refine h.sendStep (fun c hc => ?_) hstep
    cases hc
    exact h.fromEvb maxRetry maxRte
  | request =>
    cases hrequests : l.requests with
    | nil =>
      simp only [linkStep, hrequests, Except.ok.injEq] at hstep
      rw [← hstep]
      exact h
    | cons f fs =>
      simp only [linkStep, hrequests] at hstep
      exact h.request hrequests hclear hstep
  | ack =>
    cases hacks : l.acks with
    | nil =>
      simp only [linkStep, hacks, Except.ok.injEq] at hstep
      rw [← hstep]
      exact h
    | cons f fs =>
      simp only [linkStep, hacks] at hstep
      have hrest : LinkInv { l with acks := fs } :=
        h.wire (fun _ hf => hf) h.requestsOrder fun g hg => hacks ▸ List.mem_cons_of_mem _ hg
      refine hrest.sendStep (fun c hc => ?_) hstep
      obtain ⟨h1, h2, h3, h4, h5, h6⟩ := h.ack hacks hclear hc
      exact ⟨h1, h2, h3, h4, h5, h6⟩
  | loseRequest i =>
    cases hstep
    exact h.wire (fun f hf => List.mem_of_mem_eraseIdx hf)
      (h.requestsOrder.sublist (List.eraseIdx_sublist _ _)) fun _ hf => hf
  | duplicateRequest i =>
    cases hstep
    exact h.wire (fun f hf => mem_duplicateFlight hf) (duplicateFlight_order h.requestsOrder)
      fun _ hf => hf
  | loseAck i =>
    cases hstep
    exact h.wire (fun _ hf => hf) h.requestsOrder fun f hf => List.mem_of_mem_eraseIdx hf
  | duplicateAck i =>
    cases hstep
    exact h.wire (fun _ hf => hf) h.requestsOrder fun f hf => mem_duplicateFlight hf

/-! ### The start -/

theorem start_fresh {p : Port} {a : MacAddr} (hpe : p.portEnabled = true)
    (hstart : ecp22Start (some p) a = .ok c) :
    Ecp22Rest c ∧ Ledger 0 c ∧ Numbered true c ∧ c.trace.queued = [] ∧ c.trace.acked = [] ∧
      c.trace.built = 0 ∧ c.trace.places = [] ∧ c.wire = [] ∧ c.ulp = [] ∧
      c.ecp.rx.state = .rxWait := by
  rw [ecp22Start_eq] at hstart
  have hnew : newEcp22 (some p) a
      = ecp22EsWait (Ecp22Ctx.withRxState { port := some p, ownSrcAddr := a } .rxWait) := by
    rw [newEcp22, rxRun]
    dsimp only
    rw [if_neg (by rw [hpe]; simp)]
  have hledger₀ : Ledger 0 (newEcp22 (some p) a) := by
    rw [hnew]
    exact ⟨⟨p, rfl, hpe⟩, rfl, Nat.le_refl _, List.forall_mem_nil _, Nat.le_refl _, rfl,
      List.Pairwise.nil, List.forall_mem_nil _⟩
  have hnumbered₀ : Numbered true (newEcp22 (some p) a) := by
    rw [hnew]
    exact rfl
  obtain ⟨hledger, hnumbered⟩ := ecp22TxRunSm_ledger hledger₀ hnumbered₀ hstart
  obtain ⟨hqueued, hacked⟩ := ecp22TxRunSm_trace hstart
  obtain ⟨hrx, hulp, -⟩ := ecp22TxRunSm_rx hstart
  rw [hnew] at hqueued hacked hrx hulp
  have hbuilt : c.trace.built = 0 := by
    have hle := hledger.built_le
    rw [hqueued] at hle
    exact Nat.le_zero.mp hle
  have hplaces : c.trace.places = [] := by
    refine List.eq_nil_iff_forall_not_mem.mpr fun i hi => ?_
    have hlt := (hledger.range i hi).2
    rw [hbuilt] at hlt
    exact absurd hlt (Nat.not_lt_zero i)
  have hwire : c.wire = [] := by
    rw [hledger.wire, hplaces]
    rfl
  exact ⟨(newEcp22_rest _ _).txRun hstart, hledger, hnumbered, hqueued, hacked, hbuilt, hplaces,
    hwire, hulp, congrArg Ecp22Buffer.state hrx⟩

theorem Ecp22Link.Fresh.inv (h : l.Fresh) : LinkInv l := by
  obtain ⟨p, q, a, b, s, r, hp, hq, hs, hr, rfl⟩ := h
  obtain ⟨hrest, hledger, hnumbered, hqueued, hacked, hbuilt, hplaces, hwire, -, -⟩ :=
    start_fresh hp hs
  obtain ⟨hrest', hledger', -, -, -, -, -, hwire', hulp', hstate'⟩ := start_fresh hq hr
  refine ⟨hrest, ?_, hnumbered, hplaces, hledger'.up, hrest'.rx, hstate', nofun, hwire',
    List.Pairwise.nil, nofun, congrArg _ hulp', nofun, List.Pairwise.nil, nofun, ?_⟩
  · show Ledger s.trace.built s
    rw [hbuilt]
    exact hledger
  · show ∀ i ∈ s.trace.acked, i ∈ []
    rw [hacked]
    exact fun _ hi => hi

theorem LinkInv.confuses_many (h : LinkInv l) {e : LinkEvent}
    (hconf : Confuses l e) : 65535 < l.sender.trace.built := by
  -- two places below `built` with one sequence number are at least 65535 apart
  have hfar : ∀ i j, i < l.sender.trace.built → j < l.sender.trace.built → seqOf i = seqOf j →
      i ≠ j → 65535 < l.sender.trace.built := by
    intro i j hi hj heq hne
    have hmod := seqOf_eq_iff.mp heq
    omega
  cases e with
  | request =>
    obtain ⟨f, j, hhead, hlast, heq, hne⟩ := hconf
    have hmem : f ∈ l.requests := List.mem_of_mem_head? hhead
    rw [(h.request_frame hmem).1, h.lastSeqno j hlast] at heq
    exact hfar _ _ (h.requests f hmem).1 (h.handedLt j (List.mem_of_getLast? hlast)) heq hne
  | ack =>
    obtain ⟨f, hhead, hbusy, heq, hne⟩ := hconf
    obtain ⟨hhanded, before, hlen, hframe⟩ := h.acks f (List.mem_of_mem_head? hhead)
    have hstate : l.sender.ecp.tx.state = .txTxmitEcpdu := by
      refine Decidable.byContradiction fun hidle => ?_
      exact absurd (hbusy.symm.trans (h.senderRest.tx.free hidle).received) nofun
    have hnumbered := h.numbered
    unfold Numbered at hnumbered
    rw [hstate] at hnumbered
    obtain ⟨hpos, hseqno, -⟩ := hnumbered
    rw [flight_seqno hlen hframe, hseqno] at heq
    exact hfar _ _ (h.handedLt _ hhanded) (Nat.sub_lt hpos Nat.one_pos) heq hne
  | _ => exact hconf.elim

theorem ecp22Step_built {c c' : Ecp22Ctx} {e : Ecp22Event} (h : Ecp22Rest c)
    (hstep : ecp22Step c e = .ok c') : c.trace.built ≤ c'.trace.built := by
  cases e with
  | payload du =>
    rcases payload_cases hstep with rfl | ⟨-, ⟨-, hrun⟩ | rfl⟩
    · exact Nat.le_refl _
    · exact ecp22TxRunSm_built (c := c.queue du) hrun
    · exact Nat.le_refl _
  | frame buf =>
    rcases (frameResult_of_ok h.rx hstep).sameTx with hsame | ⟨seqno, hsame⟩
    · exact Nat.le_of_eq (congrArg Ecp22Trace.built hsame.trace).symm
    · refine Nat.le_trans ?_ (Nat.le_of_eq (congrArg Ecp22Trace.built hsame.trace).symm)
      unfold ecp22RecackFrame
      split <;> exact Nat.le_refl _
  | ackTimeout i =>
    rcases ackTimeout_cases hstep with rfl | ⟨t, -, hrun⟩
    · exact Nat.le_refl _
    · exact ecp22TxRunSm_built (c := c.expired i t) hrun
  | fromEvb maxRetry maxRte =>
    cases hstep
    exact Nat.le_refl _
  | port p =>
    cases hstep
    exact Nat.le_refl _

theorem linkStep_sender {l l' : Ecp22Link} {e : LinkEvent} (hstep : linkStep l e = .ok l') :
    l'.sender = l.sender ∨ ∃ e c, ecp22Step l.sender e = .ok c ∧
      l'.sender = { c with wire := [], trace := { c.trace with places := [] } } := by
  have hsend : ∀ {m : Ecp22Link} {e : Ecp22Event}, m.sender = l.sender →
      m.sendStep e = .ok l' → ∃ e c, ecp22Step l.sender e = .ok c ∧
        l'.sender = { c with wire := [], trace := { c.trace with places := [] } } := by
    intro m e hm h
    obtain ⟨c, hc, hl⟩ := bind_eq_ok.mp h
    cases hl
    exact ⟨e, c, hm ▸ hc, rfl⟩
  cases e with
  | payload du => exact .inr (hsend rfl hstep)
  | ackTimeout i => exact .inr (hsend rfl hstep)
  | fromEvb maxRetry maxRte => exact .inr (hsend rfl hstep)
  | request =>
    cases hrequests : l.requests with
    | nil =>
      simp only [linkStep, hrequests, Except.ok.injEq] at hstep
      rw [hstep]
      exact .inl rfl
    | cons f fs =>
      simp only [linkStep, hrequests] at hstep
      obtain ⟨c, -, hl⟩ := bind_eq_ok.mp hstep
      cases hl
      exact .inl rfl
  | ack =>
    cases hacks : l.acks with
    | nil =>
      simp only [linkStep, hacks, Except.ok.injEq] at hstep
      rw [hstep]
      exact .inl rfl
    | cons f fs =>
      simp only [linkStep, hacks] at hstep
      exact .inr (hsend (m := { l with acks := fs }) rfl hstep)
  | loseRequest i | duplicateRequest i | loseAck i | duplicateAck i =>
    cases hstep
    exact .inl rfl

theorem linkInv_of_few (h : linkSystem.Reachable l)
    (hfew : l.sender.trace.built ≤ 65535) : LinkInv l := by
  have hinv : Ecp22Rest l.sender ∧ (l.sender.trace.built ≤ 65535 → LinkInv l) := by
    refine h.invariant
      (I := fun l => Ecp22Rest l.sender ∧ (l.sender.trace.built ≤ 65535 → LinkInv l)) ?_ ?_
    · intro l hfresh
      have hl : LinkInv l := Ecp22Link.Fresh.inv hfresh
      exact ⟨hl.senderRest, fun _ => hl⟩
    · rintro l e l' ⟨hrest, hl⟩ hstep
      have hmono : Ecp22Rest l'.sender ∧ l.sender.trace.built ≤ l'.sender.trace.built := by
        rcases linkStep_sender hstep with hsame | ⟨e, c, hc, hsender⟩
        · rw [hsame]
          exact ⟨hrest, Nat.le_refl _⟩
        · have hcrest := ecp22Step_rest hrest hc
          have hle := ecp22Step_built hrest hc
          rw [hsender]
          exact ⟨⟨hcrest.tx.congr rfl, hcrest.rx.congr rfl⟩, hle⟩
      refine ⟨hmono.1, fun hfew => ?_⟩
      have hinv := hl (Nat.le_trans hmono.2 hfew)
      refine linkStep_inv hinv (fun hconf => ?_) hstep
      have hmany := hinv.confuses_many hconf
      omega
  exact hinv.2 hfew

/-- In every run that never takes a frame of one payload for a frame of another, the payloads
that were handed up, padded to the smallest frame, are some of those that were queued, in order
and each once, and every payload whose acknowledgement was accepted is among them. So it is in
every run in which at most 65535 payloads were put into the transmit buffer. -/
theorem delivered_of_unambiguous (l : Ecp22Link) :
    (linkSystem.ReachableWhere (fun l e => ¬Confuses l e) l → Delivered l) ∧
      (linkSystem.Reachable l → l.sender.trace.built ≤ 65535 → Delivered l) := by
  refine ⟨fun h => LinkInv.delivered ?_, fun h hfew => (linkInv_of_few h hfew).delivered⟩
  refine h.invariant (I := LinkInv) (fun l hfresh => Ecp22Link.Fresh.inv hfresh) ?_
  exact fun _ _ _ hinv hclear hstep => linkStep_inv hinv hclear hstep

end Lldpad.Qbg
