import Lldpad.Lib.Fault
import Lldpad.Dcbx.Types

/-!
# `Lldpad.Dcbx.RuleChk`: the rules of a priority group configuration

`dcb_rule_chk.c`. `dcbCheckConfig` first lets `dcbFixupPg` fit the groups to the traffic
classes of the device. It changes the configuration that it is given, so it returns it too.
Then it checks the rules for each direction.

The sums of percentages are `u8` sums.
-/

namespace Lldpad.Dcbx

open Lldpad.Lib

/-! ### `dcb_fixup_pg` -/

/-- `!!x` -/
def bit (x : Nat) : Nat := if x = 0 then 0 else 1

/-- The number of groups in use: the highest one, plus one. -/
def pgidsUsed (t : TrafficAttribs) : Nat :=
  (List.finRange 8).foldl (fun n i => max n (t.up i).pgid.toNat) 0 + 1

/-- The groups stand 1:1 for the traffic classes, via `bwgid`. -/
def TrafficAttribs.ownBwgid (t : TrafficAttribs) : TrafficAttribs :=
  { t with up := fun i => { t.up i with bwgid := UInt8.ofNat i } }

/-- A row of `pgid_up_list`: the user priorities of a group -/
def pgidUpList (t : TrafficAttribs) (pgid : Fin 8) : List (Fin 8) :=
  (List.finRange 8).filter fun j => (t.up j).pgid.toNat = pgid

/-- The traffic type of a group is that of its first user priority. -/
inductive TrafficType where
  | strict
  | pfc
  | bestEffort
  deriving DecidableEq

/-- The traffic type of a user priority -/
def trafficType (t : TrafficAttribs) (pfc : Option PfcConfig) (j : Fin 8) : TrafficType :=
  if (t.up j).strictPriority = .link then .strict
  else if pfc.any fun p => p.admin j = .enabled then .pfc
  else .bestEffort

/-- The groups of one traffic type -/
def countType (t : TrafficAttribs) (pfc : Option PfcConfig) (k : TrafficType) : Nat :=
  (List.finRange 8).countP fun i => (pgidUpList t i).head?.any fun j => trafficType t pfc j = k

/-- The traffic classes that each type gets: `cstrict`, `cpfc`, `cbe` -/
structure TypeCounts where
  strict : Nat
  pfc : Nat
  be : Nat

/-- The counts are mapped onto the traffic classes of the device, or there are fewer classes
than types. -/
def clipCounts (numTcs : Nat) (c : TypeCounts) : Option TypeCounts :=
  if numTcs < bit c.be + bit c.strict + bit c.pfc then none
  else
    let strict := min c.strict (numTcs - bit c.be - bit c.pfc)
    let pfc := min c.pfc (numTcs - strict - bit c.be)
    some { strict := strict, pfc := pfc, be := min c.be (numTcs - strict - pfc) }

/-- What the remapping loop carries from one group to the next. `pgidOf` is the new number of
each group. -/
structure Remap where
  be : Nat := 0
  pfc : Nat := 0
  strict : Nat := 0
  tcbw : Fin 8 → Int := fun _ => 0
  totalbw : Int := 0
  pgidOf : Fin 8 → Fin 8 := fun i => i

/-- `tcbw[pgid] += x` -/
def addTcbw (tcbw : Fin 8 → Int) (pgid : Int) (x : Int) : Except Fault (Fin 8 → Int) :=
  if h : 0 ≤ pgid ∧ pgid.toNat < 8 then
    .ok fun i => if i = ⟨pgid.toNat, h.2⟩ then tcbw i + x else tcbw i
  else .error .outOfBounds

/-- The next class of a type, and the counters after it. A counter that reached its limit
starts again. -/
def nextClass (c : TypeCounts) (m : Remap) : TrafficType → Nat × Remap
  | .strict => (c.be + c.pfc + m.strict,
      { m with strict := if m.strict + 1 = c.strict then 0 else m.strict + 1 })
  | .pfc => (c.be + m.pfc, { m with pfc := if m.pfc + 1 = c.pfc then 0 else m.pfc + 1 })
  | .bestEffort => (m.be, { m with be := if m.be + 1 = c.be then 0 else m.be + 1 })

/-- One group of the remapping loop -/
def remapRow (t : TrafficAttribs) (pfc : Option PfcConfig) (c : TypeCounts) (m : Remap)
    (i : Fin 8) : Except Fault Remap :=
  match (pgidUpList t i).head? with
  | none => .ok m
  | some j => do
    let (pgid, m) := nextClass c m (trafficType t pfc j)
    let tcbw ← addTcbw m.tcbw pgid (t.pgPercent i).toNat
    if h : pgid < 8 then
      .ok { m with
        tcbw := tcbw
        totalbw := m.totalbw + (t.pgPercent i).toNat
        pgidOf := fun k => if k = i then ⟨pgid, h⟩ else m.pgidOf k }
    else .error .outOfBounds

/-- What the passes after the remapping write into one direction. `tx` is the direction that
was remapped. -/
def remapped (tx t : TrafficAttribs) (m : Remap) (bwgid : Bool) : TrafficAttribs where
  pgPercent i := UInt8.ofInt (m.tcbw i)
  up j :=
    { t.up j with
      pgid := if h : (tx.up j).pgid.toNat < 8 then UInt8.ofNat (m.pgidOf ⟨_, h⟩)
        else (t.up j).pgid
      bwgid := if bwgid then UInt8.ofNat j else (t.up j).bwgid
      percentOfPgCap := if (tx.up j).strictPriority = .link then 0 else 100 }

/-- `dcb_fixup_pg`. There is no result when there are fewer traffic classes than types. -/
def dcbFixupPg (pg : PgConfig) (pfc : Option PfcConfig) : Except Fault (Option PgConfig) :=
  if pgidsUsed pg.tx ≤ pg.numTcs then
    .ok (some { pg with tx := pg.tx.ownBwgid, rx := pg.rx.ownBwgid })
  else if (List.finRange 8).any fun i => 8 ≤ (pg.tx.up i).pgid.toNat then
    -- The matrix has eight rows.
    .error .outOfBounds
  else
    match clipCounts pg.numTcs
        { strict := countType pg.tx pfc .strict
          pfc := countType pg.tx pfc .pfc
          be := countType pg.tx pfc .bestEffort } with
    | none => .ok none
    | some c => do
      let m ← (List.finRange 8).foldlM (remapRow pg.tx pfc c) {}
      -- A percentage that no user priority can use goes to the highest class that is not
      -- strict.
      let tcbw ←
        if m.totalbw = 100 then pure m.tcbw
        else addTcbw m.tcbw ((pg.numTcs : Int) - c.strict - 1) (100 - m.totalbw)
      let m := { m with tcbw := tcbw }
      pure (some { pg with
        tx := remapped pg.tx pg.tx m true
        rx := remapped pg.tx pg.rx m false })

/-! ### `dcb_check_config` -/

/-- `link_strict_pgid`, or more than one group is link strict. -/
def linkStrictOf (t : TrafficAttribs) : Option UInt8 :=
  (List.finRange 8).foldlM (fun link i =>
    if (t.up i).strictPriority = .link then
      if link = linkStrictPgid then some (t.up i).pgid
      else if (t.up i).pgid = link then some link
      else none
    else some link) linkStrictPgid

/-- The percentages of the groups, without the link strict one -/
def totalBw (t : TrafficAttribs) (link : UInt8) : UInt8 :=
  let bw := (List.finRange 8).foldl (fun bw i => bw + t.pgPercent i) 0
  if h : link.toNat < 8 then bw - t.pgPercent ⟨_, h⟩ else bw

/-- The rule on the bandwidth groups: 100 in total, or nothing and all of them link strict. -/
def totalOk (t : TrafficAttribs) : Bool :=
  (linkStrictOf t).any fun link =>
    totalBw t link = bwPercent ∨
      totalBw t link = 0 ∧ ∀ i, (t.up i).strictPriority = .link

/-- The rule on the traffic classes: a link strict one has no bandwidth of its group, another
one has some. -/
def classesOk (t : TrafficAttribs) : Bool :=
  decide (∀ i, (t.up i).bwgid.toNat < 8 ∧
    ((t.up i).strictPriority = .link ↔ (t.up i).percentOfPgCap = 0))

/-- `tx_bw_sum` of a bandwidth group -/
def bwSum (t : TrafficAttribs) (g : Fin 8) : UInt8 :=
  (List.finRange 8).foldl
    (fun bw i => if (t.up i).bwgid.toNat = g then bw + (t.up i).percentOfPgCap else bw) 0

/-- `tx_link_strict` of a bandwidth group -/
def groupLinkStrict (t : TrafficAttribs) (g : Fin 8) : Bool :=
  decide (∃ i, (t.up i).bwgid.toNat = g ∧ (t.up i).strictPriority = .link)

/-- The rule on the classes of one bandwidth group -/
def groupsOk (t : TrafficAttribs) : Bool :=
  decide (∀ g, if groupLinkStrict t g = true then bwSum t g = 0 ∨ t.pgPercent g = 0
    else bwSum t g = bwPercent ∨ bwSum t g = 0)

/-- The rules for one direction -/
def trafficOk (t : TrafficAttribs) : Bool := totalOk t && classesOk t && groupsOk t

/-- `dcb_check_config`, with the configuration that it leaves behind -/
def dcbCheckConfig (pg : PgConfig) (pfc : Option PfcConfig) :
    Except Fault (PgConfig × CmdStatus) := do
  match ← dcbFixupPg pg pfc with
  | none => pure (pg, .failed)
  | some pg =>
    pure (pg, if trafficOk pg.tx && trafficOk pg.rx then .success else .badParams)

/-! ### `rebalance_uppcts` -/

def bwFixup (numFound : Nat) : Nat := [0, 0, 1, 0, 0, 4, 2, 4].getD (numFound - 1) 0

/-- The user priorities of a bandwidth group: `uplist` -/
def upList (t : TrafficAttribs) (g : Fin 8) : List (Fin 8) :=
  (List.finRange 8).filter fun i => (t.up i).bwgid.toNat = g

/-- One bandwidth group of `rebalance_uppcts`, in the direction `t`. The group is that of
`tx`. -/
def rebalanceGroup (tx t : TrafficAttribs) (g : Fin 8) : TrafficAttribs :=
  let ups := upList tx g
  if ups.any fun i => (tx.up i).strictPriority = .link then
    { t with up := fun i =>
        if i ∈ ups ∧ (tx.up i).strictPriority = .link then { t.up i with percentOfPgCap := 0 }
        else t.up i }
  else
    { t with up := fun i =>
        if i ∈ ups then
          { t.up i with
            percentOfPgCap := UInt8.ofNat (100 / ups.length +
              if ups.idxOf i < bwFixup ups.length then 1 else 0)
            strictPriority := .none }
        else t.up i }

def rebalanceUppcts (pg : PgConfig) : PgConfig :=
  (List.finRange 8).foldl (fun pg g =>
    { pg with tx := rebalanceGroup pg.tx pg.tx g, rx := rebalanceGroup pg.tx pg.rx g }) pg

end Lldpad.Dcbx
