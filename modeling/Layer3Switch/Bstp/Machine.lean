import Layer3Switch.Bstp.Types
import Layer3Switch.Rstp.Cli

namespace Layer3Switch.Bstp

open Lib.Bytes
open Timers (U32)
open Stp (IfStatus MacAddress macAddress htons htonl ntohs ntohl bridgeTimerRelation)
open Rstp (IfState PriVector Info U64 bridgeIdWord bstpInfoCmp promoted bstpTickVal
  bstpMinHelloTime bstpMaxHelloTime bstpMinMaxAge bstpMaxMaxAge bstpMinForwardDelay
  bstpMaxForwardDelay bstpDefaultMaxAge bstpDefaultHelloTime bstpDefaultForwardDelay)

/-! ### Timers of a port -/

def bstpTimerStart (v : ℕ) : BstpTimer := ⟨true, false, (v % 2 ^ 16 : ℕ)⟩

def bstpTimerStop : BstpTimer := ⟨false, false, 0⟩

def bstpTimerLatch (t : BstpTimer) : BstpTimer := { t with latched := true, active := true }

def bstpTimerExpired (t : BstpTimer) : BstpTimer × Bool :=
  if !t.active || t.latched then (t, false)
  else if t.value - bstpTickVal.toNat ≤ 0 then (bstpTimerStop, true)
  else ({ t with value := t.value - bstpTickVal.toNat }, false)

/-! ### Priority vectors -/

/-- The macro `PV2ADDR`. -/
def pv2addr (pv : U64) : MacAddress :=
  macAddress ((pv >>> 40).setWidth 8) ((pv >>> 32).setWidth 8) ((pv >>> 24).setWidth 8)
    ((pv >>> 16).setWidth 8) ((pv >>> 8).setWidth 8) (pv.setWidth 8)

def bstpAddrCmp (a b : MacAddress) : ℤ :=
  (List.zip a.toList b.toList).foldl
    (fun d x ↦ if d = 0 then (x.1.toNat : ℤ) - (x.2.toNat : ℤ) else d) 0

def bstpSameBridgeid (id₁ id₂ : U64) : Bool := bstpAddrCmp (pv2addr id₁) (pv2addr id₂) = 0

def bstpInfoSuperior (pv cpv : PriVector) : Bool :=
  bstpInfoCmp pv cpv = .better || bstpSameBridgeid pv.pvDbridgeId cpv.pvDbridgeId &&
    cpv.pvDportId &&& 0xfff = pv.pvDportId &&& 0xfff

def bstpPduBettersame (bp : BstpPort) (newinfo : InfoIs) : Bool :=
  newinfo = .received && bp.infois = .received && bstpInfoCmp bp.portPv bp.msgCu.pv ≠ .worse ||
    newinfo = .mine && bp.infois = .mine && bstpInfoCmp bp.portPv bp.desgPv ≠ .worse

def bstpPduRcvtype (bp : BstpPort) (cu : BstpConfigUnit) : RcvType :=
  match cu.role with
  | .designated =>
    if bstpInfoSuperior bp.portPv cu.pv then .superior
    else if bstpInfoCmp bp.portPv cu.pv = .same then
      if bp.portTimes ≠ cu.times then .superior else .repeated
    else .inferior
  | .root | .alternate | .backup =>
    if bstpInfoCmp bp.portPv cu.pv ≠ .better then .inferiorAlt else .other
  | .disabled => .other

/-! ### Packets -/

section Flags

variable (bp : BstpPort)

def bstpPduFlags : U8 :=
  let flags : U8 := if bp.proposing && bp.state ≠ .forwarding then 0x02 else 0
  let flags := if bp.agree then flags ||| 0x40 else flags
  let flags := if bp.tcTimer.active then flags ||| 0x01 else flags
  let flags := if bp.tcAck then flags ||| 0x80 else flags
  let flags := match bp.state with
    | .learning => flags ||| 0x10
    | .forwarding => flags ||| 0x30
    | _ => flags
  let flags := match bp.role with
    | .root => flags ||| 0x02 <<< 2
    | .alternate | .backup => flags ||| 0x01 <<< 2
    | .designated => flags ||| 0x03 <<< 2
    | .disabled => flags
  match bp.protover with
  | .stp => flags &&& 0x81
  | .rstp => flags &&& 0x7f

end Flags

variable (H : Host)

def bstpCbpdu (stackByte : U8) (bp : BstpPort) : BstpCbpdu where
  etherDhost := bstpEtheraddr
  etherShost := H.portAddr bp.ifp
  etherType := htons H.endian (if bp.protover = .stp then bstpBpduStpLen else bstpBpduRstpLen)
  dsap := llc8021dLsap
  ssap := llc8021dLsap
  ctl := llcUi
  protoid := htons H.endian bstpProtoId
  protover := bp.protover.number
  bpdutype := if bp.protover = .stp then bstpMsgtypeCfg else bstpMsgtypeRstp
  flags := bstpPduFlags bp
  rootpri := htons H.endian ((bp.desgPv.pvRootId >>> 48).setWidth 16)
  rootaddr := pv2addr bp.desgPv.pvRootId
  rootpathcost := htonl H.endian bp.desgPv.pvCost
  bridgepri := htons H.endian ((bp.desgPv.pvDbridgeId >>> 48).setWidth 16)
  bridgeaddr := pv2addr bp.desgPv.pvDbridgeId
  portid := htons H.endian bp.portId
  messageage := htons H.endian bp.desgTimes.msgAge
  maxage := htons H.endian bp.desgTimes.maxAge
  hellotime := htons H.endian bp.desgTimes.htime
  forwarddelay := htons H.endian bp.desgTimes.fdelay
  versionlen := if bp.protover = .stp then stackByte else 0

def bstpTbpdu (bp : BstpPort) : BstpTbpdu where
  etherDhost := bstpEtheraddr
  etherShost := H.portAddr bp.ifp
  etherType := htons H.endian 21
  dsap := llc8021dLsap
  ssap := llc8021dLsap
  ctl := llcUi
  protoid := 0
  protover := 0
  bpdutype := bstpMsgtypeTcn

def World.sendPacket (w : World) (ifp : U16) (pkt : Packet) : World :=
  { w with sent := w.sent ++ [(ifp, pkt)] }

def bstpTransmitBpdu (i : ℕ) (w : World) : World :=
  w.withPort i fun bp ↦
    (w.onPort i fun bp ↦ { bp with txcount := bp.txcount + 1 }).sendPacket bp.ifp
      (.config (bstpCbpdu H w.stackByte bp))

def bstpTransmitTcn (i : ℕ) (w : World) : World :=
  w.withPort i fun bp ↦
    (w.onPort i fun bp ↦ { bp with txcount := bp.txcount + 1 }).sendPacket bp.ifp
      (.tcn (bstpTbpdu H bp))

def transmitKept (i : ℕ) (w : World) : World :=
  w.withPort i fun bp ↦
    if bp.txcount > w.bs.txholdcount then w
    else
      let w :=
        match bp.protover, bp.role with
        | .rstp, _ | .stp, .designated =>
          (bstpTransmitBpdu H i w).onPort i ({ · with tcAck := false })
        | .stp, .root => bstpTransmitTcn H i w
        | .stp, _ => w
      w.onPort i fun bp ↦ { bp with
        helloTimer := bstpTimerStart bp.desgTimes.htime.toNat, flags.newinfo := false }

def restartHello (bp : BstpPort) : BstpPort :=
  { bp with helloTimer := bstpTimerStart bp.desgTimes.htime.toNat, flags.newinfo := true }

def bstpHelloTimerExpiry (i : ℕ) (w : World) : World :=
  w.withPort i fun bp ↦
    if bp.flags.newinfo || bp.role = .designated || bp.role = .root && bp.tcTimer.active then
      let w := w.onPort i restartHello
      if w.bs.running then transmitKept H i w else w
    else w

def bstpTransmit (i : ℕ) (w : World) : World :=
  if !w.bs.running then w
  else w.withPort i fun bp ↦
    if !bp.helloTimer.active then bstpHelloTimerExpiry H i w else transmitKept H i w

/-! ### Topology changes -/

def bstpSetTimerTc (i : ℕ) (w : World) : World :=
  w.onPort i fun bp ↦
    if bp.tcTimer.active then bp
    else match bp.protover with
      | .rstp => { bp with
          tcTimer := bstpTimerStart (bp.desgTimes.htime.toNat + bstpTickVal.toNat)
          flags.newinfo := true }
      | .stp => { bp with
          tcTimer := bstpTimerStart (w.bs.rootTimes.maxAge.toNat + w.bs.rootTimes.fdelay.toNat) }

def bstpSetOtherTcprop (i : ℕ) (w : World) : World :=
  w.onBs fun bs ↦ { bs with
    bplist := bs.bplist.mapIdx fun j bp ↦ if j = i then bp else { bp with tcProp := true } }

def tcReceived (i : ℕ) (w : World) : World :=
  let w := w.onPort i fun bp ↦ { bp with
    rcvdtc := false, rcvdtcn := false, tcAck := bp.role = .designated || bp.tcAck }
  (bstpSetOtherTcprop i w).onPort i ({ · with tcstate := .active })

def bstpSetPortTc (state : TcState) (i : ℕ) (w : World) : World :=
  let w := w.onPort i ({ · with tcstate := state })
  match state with
  | .active => w
  | .inactive => w.onPort i ({ · with tcTimer := bstpTimerStop, fdbflush := true, tcAck := false })
  | .learning =>
    w.onPort i ({ · with rcvdtc := false, rcvdtcn := false, rcvdtca := false, tcProp := false })
  | .detected =>
    let w := bstpSetOtherTcprop i (bstpSetTimerTc i w)
    let w := bstpTransmit H i (w.onPort i ({ · with flags.newinfo := true }))
    w.onPort i ({ · with tcstate := .active })
  | .tcn => tcReceived i (bstpSetTimerTc i w)
  | .tc => tcReceived i w
  | .propag =>
    let w := bstpSetTimerTc i (w.onPort i ({ · with fdbflush := true, tcProp := false }))
    w.onPort i ({ · with tcstate := .active })
  | .ack => w.onPort i ({ · with tcTimer := bstpTimerStop, rcvdtca := false, tcstate := .active })

def tcWhen (c : BstpPort → Bool) (state : TcState) (i : ℕ) (w : World) : World :=
  w.withPort i fun bp ↦ if c bp then bstpSetPortTc H state i w else w

def BstpPort.inTree (bp : BstpPort) : Bool := bp.role = .designated || bp.role = .root

def bstpUpdateTc (i : ℕ) (w : World) : World :=
  w.withPort i fun bp ↦
    match bp.tcstate with
    | .active =>
      let w := tcWhen H (fun bp ↦ !bp.inTree || bp.operedge) .learning i w
      let w := tcWhen H (·.rcvdtcn) .tcn i w
      let w := tcWhen H (·.rcvdtc) .tc i w
      let w := tcWhen H (fun bp ↦ bp.tcProp && !bp.operedge) .propag i w
      tcWhen H (·.rcvdtca) .ack i w
    | .inactive =>
      tcWhen H (fun bp ↦ (bp.state = .learning || bp.state = .forwarding) && !bp.fdbflush)
        .learning i w
    | .learning =>
      let w :=
        if bp.rcvdtc || bp.rcvdtcn || bp.rcvdtca || bp.tcProp then bstpSetPortTc H .learning i w
        else tcWhen H (fun bp ↦ !bp.inTree && bp.state = .discarding) .inactive i w
      tcWhen H (fun bp ↦ bp.inTree && bp.state = .forwarding && !bp.operedge) .detected i w
    | _ => w

/-! ### Roles -/

def learningTime (bp : BstpPort) : ℕ :=
  if bp.protover = .rstp then bp.desgTimes.htime.toNat else bp.desgTimes.fdelay.toNat

def bstpSetPortState (state : IfState) (bp : BstpPort) : BstpPort :=
  if bp.state = state then bp
  else
    let bp := { bp with state := state }
    match state with
    | .learning => { bp with forwardDelayTimer := bstpTimerStart (learningTime bp) }
    | .forwarding => { bp with
        forwardDelayTimer := bstpTimerStop, forwardTransitions := bp.forwardTransitions + 1 }
    | _ => bp

def leaveRole (bp : BstpPort) : BstpPort :=
  match bp.role with
  | .disabled => { bp with forwardDelayTimer := bstpTimerStart bp.desgTimes.maxAge.toNat }
  | .backup => { bp with
      recentBackupTimer := bstpTimerStart (bp.desgTimes.htime.toNat * 2)
      forwardDelayTimer := bstpTimerStart bp.desgTimes.fdelay.toNat
      sync := false, synced := true, reroot := false }
  | .alternate => { bp with
      forwardDelayTimer := bstpTimerStart bp.desgTimes.fdelay.toNat
      sync := false, synced := true, reroot := false }
  | .root => { bp with recentRootTimer := bstpTimerStart bstpDefaultForwardDelay.toNat }
  | .designated => bp

def enterRole (role : Role) (bp : BstpPort) : BstpPort :=
  match role with
  | .disabled | .alternate | .backup =>
    let bp := bstpSetPortState .discarding bp
    { bp with
      recentRootTimer := bstpTimerStop
      forwardDelayTimer := bstpTimerLatch bp.forwardDelayTimer
      sync := false, synced := true, reroot := false }
  | .root =>
    let bp := bstpSetPortState .discarding bp
    { bp with recentRootTimer := bstpTimerLatch bp.recentRootTimer, proposing := false }
  | .designated =>
    { bp with helloTimer := bstpTimerStart bp.desgTimes.htime.toNat, agree := false }

def bstpSetPortRole (role : Role) (i : ℕ) (w : World) : World :=
  w.withPort i fun bp ↦
    if bp.role = role then w
    else
      let w := w.onPort i fun bp ↦ { leaveRole bp with role := role, proposing := false }
      let w := w.onBs ({ · with allsynced := false })
      bstpUpdateTc H i (w.onPort i (enterRole role))

def ownInfo (bp : BstpPort) : BstpPort :=
  let agreed := bp.agreed && bstpPduBettersame bp .mine
  { bp with
    proposing := false, proposed := false
    agreed := agreed, synced := bp.synced && agreed
    portPv := bp.desgPv, portTimes := bp.desgTimes
    infois := .mine
    flags.newinfo := true }

def bstpUpdateInfo (i : ℕ) (w : World) : World :=
  w.withPort i fun bp ↦
    let w := w.onPort i ownInfo
    if bp.synced && !(bp.agreed && bstpPduBettersame bp .mine) then
      w.onBs ({ · with allsynced := false })
    else w

/-- The root so far: its vector and times, and the port they come from. -/
structure RootChoice where
  pv : PriVector
  times : Times
  rbp : Option ℕ

def BstpPort.rootPathPv (bp : BstpPort) : PriVector :=
  { bp.portPv with pvCost := bp.portPv.pvCost + bp.pathCost }

def BstpState.ownChoice (bs : BstpState) : RootChoice :=
  ⟨bs.bridgePv, ⟨0, bs.bridgeMaxAge, bs.bridgeFdelay, bs.bridgeHtime⟩, none⟩

def BstpState.consider (bs : BstpState) (c : RootChoice) (x : BstpPort × ℕ) : RootChoice :=
  if x.1.infois = .received && !bstpSameBridgeid x.1.portPv.pvDbridgeId bs.bridgePv.pvDbridgeId &&
    bstpInfoCmp c.pv x.1.rootPathPv = .better
  then ⟨x.1.rootPathPv, { x.1.portTimes with
    msgAge := x.1.portTimes.msgAge + bstpMessageAgeIncr }, some x.2⟩
  else c

def BstpState.rootChoice (bs : BstpState) : RootChoice :=
  bs.bplist.zipIdx.foldl bs.consider bs.ownChoice

def designate (bs : BstpState) (bp : BstpPort) : BstpPort :=
  { bp with
    desgPv := ⟨bs.rootPv.pvRootId, bs.bridgePv.pvDbridgeId, bs.rootPv.pvCost, bp.portId, bp.portId⟩
    desgTimes := { bs.rootTimes with htime := bs.bridgeHtime } }

def assignRole (rbp : Option ℕ) (i : ℕ) (w : World) : World :=
  let w := w.onPort i (designate w.bs)
  w.withPort i fun bp ↦
    match bp.infois with
    | .disabled => bstpSetPortRole H .disabled i w
    | .aged => bstpUpdateInfo i (bstpSetPortRole H .designated i w)
    | .mine =>
      let w := bstpSetPortRole H .designated i w
      w.withPort i fun bp ↦
        if bstpInfoCmp bp.portPv bp.desgPv ≠ .same ||
          (rbp.bind w.port).any fun r ↦ bp.portTimes ≠ r.portTimes
        then bstpUpdateInfo i w else w
    | .received =>
      if rbp = some i then
        (bstpSetPortRole H .root i w).onBs ({ · with rootPort := some i })
      else if bstpInfoCmp bp.portPv bp.desgPv = .better then
        bstpUpdateInfo i (bstpSetPortRole H .designated i w)
      else if bstpSameBridgeid bp.portPv.pvDbridgeId w.bs.bridgePv.pvDbridgeId then
        bstpSetPortRole H .backup i w
      else bstpSetPortRole H .alternate i w

def bstpAssignRoles (w : World) : World :=
  let c := w.bs.rootChoice
  let w := w.onBs fun bs ↦ { bs with rootPv := c.pv, rootTimes := c.times, rootPort := none }
  w.forPorts (assignRole H c.rbp)

def bstpSetAllReroot (w : World) : World := w.onPorts ({ · with reroot := true })

def bstpSetAllSync (w : World) : World :=
  (w.onPorts ({ · with sync := true, synced := false })).onBs ({ · with allsynced := false })

def bstpRerooted (w : World) (i : ℕ) : Bool :=
  !w.bs.bplist.zipIdx.any fun x ↦ x.2 ≠ i && x.1.recentRootTimer.active

def clearSync (bp : BstpPort) : BstpPort :=
  if bp.sync || !bp.synced || bp.reroot then
    { bp with sync := false, synced := true, reroot := false }
  else bp

def agreeWhen (allsynced : Bool) (bp : BstpPort) : BstpPort :=
  if allsynced && !bp.agree || bp.proposed && bp.agree then
    { bp with proposed := false, agree := true, flags.newinfo := true }
  else bp

def syncWhenProposed (i : ℕ) (w : World) : World :=
  w.withPort i fun bp ↦
    if bp.proposed && !bp.agree then (bstpSetAllSync w).onPort i ({ · with proposed := false })
    else w

def updateAlternate (i : ℕ) (w : World) : World :=
  (syncWhenProposed i (w.onPort i (agreeWhen w.bs.allsynced))).onPort i clearSync

def rootAgreed (allsynced : Bool) (bp : BstpPort) : BstpPort :=
  if allsynced && !bp.agree || bp.proposed && bp.agree then
    { agreeWhen allsynced bp with sync := false }
  else bp

def rootForward (rerooted : Bool) (bp : BstpPort) : BstpPort :=
  if bp.state ≠ .forwarding && (!bp.forwardDelayTimer.active ||
    rerooted && !bp.recentBackupTimer.active && bp.protover = .rstp)
  then match bp.state with
    | .discarding => bstpSetPortState .learning bp
    | .learning => bstpSetPortState .forwarding bp
    | _ => bp
  else bp

def rootRerooted (bp : BstpPort) : BstpPort :=
  if bp.state = .forwarding && bp.reroot then { bp with reroot := false } else bp

def updateRoot (i : ℕ) (w : World) : World :=
  let w := w.withPort i fun bp ↦
    if bp.state ≠ .forwarding && !bp.reroot then bstpSetAllReroot w else w
  let w := syncWhenProposed i (w.onPort i (rootAgreed w.bs.allsynced))
  (w.onPort i (rootForward (bstpRerooted w i))).onPort i rootRerooted

def designatedRetired (bp : BstpPort) : BstpPort :=
  if !bp.recentRootTimer.active && bp.reroot then { bp with reroot := false } else bp

def designatedSynced (bp : BstpPort) : BstpPort :=
  if bp.state = .discarding && !bp.synced || bp.agreed && !bp.synced ||
    bp.operedge && !bp.synced || bp.sync && bp.synced
  then { bp with recentRootTimer := bstpTimerStop, synced := true, sync := false }
  else bp

def designatedPropose (bp : BstpPort) : BstpPort :=
  if bp.state ≠ .forwarding && !bp.agreed && !bp.proposing && !bp.operedge then
    { bp with
      proposing := true, flags.newinfo := true
      edgeDelayTimer := bstpTimerStart
        (if bp.ptpLink then bstpDefaultMigrateDelay.toNat else bp.desgTimes.maxAge.toNat) }
  else bp

def designatedForward (bp : BstpPort) : BstpPort :=
  if bp.state ≠ .forwarding && (!bp.forwardDelayTimer.active || bp.agreed || bp.operedge) &&
    (!bp.recentRootTimer.active || !bp.reroot) && !bp.sync
  then
    if bp.agreed || bp.operedge || bp.state = .learning then
      { bstpSetPortState .forwarding bp with agreed := bp.protover = .rstp }
    else if bp.state = .discarding then bstpSetPortState .learning bp
    else bp
  else bp

def designatedDiscard (bp : BstpPort) : BstpPort :=
  if (bp.sync && !bp.synced || bp.reroot && bp.recentRootTimer.active || bp.flags.disputed) &&
    !bp.operedge && bp.state ≠ .discarding
  then { bstpSetPortState .discarding bp with
    flags.disputed := false
    forwardDelayTimer := bstpTimerStart (learningTime bp) }
  else bp

def updateDesignated (bp : BstpPort) : BstpPort :=
  designatedDiscard (designatedForward
    (designatedPropose (designatedSynced (designatedRetired bp))))

def updateRole (i : ℕ) (w : World) : World :=
  w.withPort i fun bp ↦
    match bp.role with
    | .disabled => w.onPort i clearSync
    | .alternate | .backup => updateAlternate i w
    | .root => updateRoot i w
    | .designated => w.onPort i updateDesignated

def bstpUpdateRoles (i : ℕ) (w : World) : World :=
  let w := updateRole i w
  w.withPort i fun bp ↦ if bp.flags.newinfo then bstpTransmit H i w else w

def bstpUpdateState (i : ℕ) (w : World) : World :=
  let w := if w.bs.allsynced then w
    else w.onBs fun bs ↦ { bs with
      allsynced := bs.bplist.all fun bp ↦ bp.synced || bp.role = .root }
  bstpUpdateTc H i (bstpUpdateRoles H i w)

/-! ### Ports -/

def bstpCalcPathCost (stackWord : U32) (bp : BstpPort) : U32 :=
  if bp.flags.admcost then bp.pathCost
  else
    let cost := if stackWord > bstpMaxPathCost then bstpMaxPathCost else stackWord
    if bp.protover = .stp && cost > 65535#32 then 65535 else cost

def bstpSetPortProto (migrationDelay : U16) (proto : Proto) (bp : BstpPort) : BstpPort :=
  match proto with
  | .stp => { bp with
      migrateDelayTimer := bstpTimerStop, operedge := false
      pathCost := if bp.pathCost > 65535#32 then 65535 else bp.pathCost
      protover := .stp, flags.canmigrate := false }
  | .rstp => { bp with
      migrateDelayTimer := bstpTimerStart migrationDelay.toNat
      protover := .rstp, flags.canmigrate := false }

def bstpEnablePort (i : ℕ) (w : World) : World :=
  bstpAssignRoles H (w.onPort i ({ · with infois := .aged }))

def bstpDisablePort (i : ℕ) (w : World) : World :=
  bstpAssignRoles H
    ((w.onPort i ({ · with infois := .disabled })).onPort i (bstpSetPortState .discarding))

def bstpIfupdstatus (i : ℕ) (w : World) : World :=
  w.withPort i fun bp ↦
    if w.operState bp.ifp ≠ .down then
      let w := w.onPort i fun bp ↦
        if bp.flags.pndcost then
          { bp with pathCost := bstpCalcPathCost w.stackWord bp, flags.pndcost := false }
        else bp
      if bp.role = .disabled then bstpEnablePort H i w else w
    else if bp.infois ≠ .disabled then bstpDisablePort H i w else w

def bstpSetTimerMsgage (bp : BstpPort) : BstpPort :=
  { bp with messageAgeTimer :=
      if bp.portTimes.msgAge.toNat + bstpMessageAgeIncr.toNat ≤ bp.portTimes.maxAge.toNat then
        bstpTimerStart (bp.portTimes.htime.toNat * 3)
      else bstpTimerStart 0 }

def bstpMessageAgeExpiry (i : ℕ) (w : World) : World :=
  w.withPort i fun bp ↦
    if bp.infois = .received then bstpAssignRoles H (w.onPort i ({ · with infois := .aged }))
    else w

def bstpMigrateDelayExpiry (bp : BstpPort) : BstpPort := { bp with flags.canmigrate := true }

def bstpEdgeDelayExpiry (bp : BstpPort) : BstpPort :=
  if bp.flags.autoedge && bp.protover = .rstp && bp.proposing && bp.role = .designated then
    { bp with operedge := true }
  else bp

/-! ### Messages -/

def bstpDecodeBpdu (bp : BstpPort) (cpdu : BstpCbpdu) (cu : BstpConfigUnit) : BstpConfigUnit :=
  let role := if cpdu.protover = Proto.stp.number then .designated else cu.role
  let flags := if cpdu.protover = Proto.stp.number then cpdu.flags &&& 0x81
    else if cpdu.protover = Proto.rstp.number then cpdu.flags &&& 0x7f else cpdu.flags
  { pv := {
      pvRootId := bridgeIdWord (ntohs H.endian cpdu.rootpri) cpdu.rootaddr
      pvDbridgeId := bridgeIdWord (ntohs H.endian cpdu.bridgepri) cpdu.bridgeaddr
      pvCost := ntohl H.endian cpdu.rootpathcost
      pvDportId := ntohs H.endian cpdu.portid
      pvPortId := bp.portId }
    times := {
      msgAge := ntohs H.endian cpdu.messageage
      maxAge := ntohs H.endian cpdu.maxage
      fdelay := ntohs H.endian cpdu.forwarddelay
      htime := ntohs H.endian cpdu.hellotime }
    messageType := cpdu.bpdutype
    topologyChangeAck := flags &&& 0x80 ≠ 0
    topologyChange := flags &&& 0x01 ≠ 0
    proposal := flags &&& 0x02 ≠ 0
    agree := flags &&& 0x40 ≠ 0
    learning := flags &&& 0x10 ≠ 0
    forwarding := flags &&& 0x20 ≠ 0
    role :=
      if (flags &&& 0x0c) >>> 2 = 0x02 then .root
      else if (flags &&& 0x0c) >>> 2 = 0x01 then .alternate
      else if (flags &&& 0x0c) >>> 2 = 0x03 then .designated
      else role }

def bstpReceivedTcn (i : ℕ) (w : World) : World :=
  bstpUpdateTc H i (w.onPort i ({ · with rcvdtcn := true }))

def noteFlags (cu : BstpConfigUnit) (bp : BstpPort) : BstpPort :=
  { bp with
    proposed := cu.proposal && !cu.forwarding || bp.proposed
    rcvdtc := cu.topologyChange || bp.rcvdtc
    rcvdtca := cu.topologyChangeAck || bp.rcvdtca }

def recordSuperior (cu : BstpConfigUnit) (bp : BstpPort) : BstpPort :=
  let bp := noteFlags cu { bp with agreed := false, proposing := false }
  let bp := { bp with agree := bp.agree && bstpPduBettersame bp .received }
  let minHelloTime := bstpMinHelloTime.toBitVec.setWidth 16
  let bp := { bp with
    portPv := cu.pv
    portTimes := { cu.times with
      htime := if cu.times.htime > minHelloTime then cu.times.htime else minHelloTime } }
  { bstpSetTimerMsgage bp with infois := .received }

def noteAgreement (cu : BstpConfigUnit) (bp : BstpPort) : BstpPort :=
  { bp with
    agreed := cu.agree && bp.ptpLink
    proposing := bp.proposing && !(cu.agree && bp.ptpLink)
    rcvdtc := cu.topologyChange || bp.rcvdtc
    rcvdtca := cu.topologyChangeAck || bp.rcvdtca }

def bstpReceivedBpdu (cu : BstpConfigUnit) (i : ℕ) (w : World) : World :=
  w.withPort i fun bp ↦
    if bp.infois = .disabled || bp.infois = .aged then w
    else
      match bstpPduRcvtype bp cu with
      | .superior =>
        let w := (w.onBs ({ · with allsynced := false })).onPort i (recordSuperior cu)
        bstpUpdateState H i (bstpAssignRoles H w)
      | .repeated =>
        bstpUpdateState H i (w.onPort i fun bp ↦ bstpSetTimerMsgage (noteFlags cu bp))
      | .inferior =>
        bstpUpdateState H i (w.onPort i fun bp ↦
          if cu.learning then { bp with agreed := true, proposing := false } else bp)
      | .inferiorAlt => bstpUpdateState H i (w.onPort i (noteAgreement cu))
      | .other => w

def receiveConfig (cpdu : BstpCbpdu) (i : ℕ) (w : World) : World :=
  w.withPort i fun bp ↦
    let cu := bstpDecodeBpdu H bp cpdu bp.msgCu
    bstpReceivedBpdu H cu i (w.onPort i ({ · with msgCu := cu }))

def bstpReceivedStp (tpdu : BstpCbpdu) (i : ℕ) (w : World) : World :=
  if tpdu.bpdutype = bstpMsgtypeTcn then bstpReceivedTcn H i w
  else if tpdu.bpdutype = bstpMsgtypeCfg then receiveConfig H tpdu i w
  else w

def bstpReceivedRstp (tpdu : BstpCbpdu) (i : ℕ) (w : World) : World :=
  if tpdu.bpdutype ≠ bstpMsgtypeRstp then w else receiveConfig H tpdu i w

def Proto.ofNumber (n : U8) : Option Proto :=
  if n = Proto.stp.number then some .stp else if n = Proto.rstp.number then some .rstp else none

def capVersion (tpdu : BstpCbpdu) : BstpCbpdu :=
  { tpdu with protover := if tpdu.protover > bstpProtoMax then bstpProtoMax else tpdu.protover }

def migrate (delay : U16) (version : U8) (bp : BstpPort) : BstpPort :=
  if version ≠ bp.protover.number then
    (Proto.ofNumber version).elim bp fun proto ↦ bstpSetPortProto delay proto bp
  else bp

def clearEdge (bp : BstpPort) : BstpPort :=
  { bp with operedge := false, edgeDelayTimer := bstpTimerStart bstpDefaultMigrateDelay.toNat }

def receiveVersion (tpdu : BstpCbpdu) (i : ℕ) (w : World) : World :=
  match Proto.ofNumber tpdu.protover with
  | some .stp => bstpReceivedStp H tpdu i w
  | some .rstp => bstpReceivedRstp H tpdu i w
  | none => w

/-- `rstp_process_bpdu` for the port at position `i`. A version that is not supported is
not refused, but nothing is received with it. -/
def rstpProcessBpdu (tpdu : BstpCbpdu) (i : ℕ) (w : World) : World :=
  w.withPort i fun bp ↦
    if tpdu.dsap ≠ llc8021dLsap ∨ tpdu.ssap ≠ llc8021dLsap ∨ tpdu.ctl ≠ llcUi then w
    else if tpdu.protoid ≠ bstpProtoId then w
    else if (capVersion tpdu).protover ≠ bp.protover.number && !bp.flags.canmigrate then w
    else receiveVersion H (capVersion tpdu) i ((w.onPort i
      (migrate w.bs.migrationDelay (capVersion tpdu).protover)).onPort i clearEdge)

/-! ### The clock -/

def passTimers (bp : BstpPort) : BstpPort :=
  { bp with
    tcTimer := (bstpTimerExpired bp.tcTimer).1
    recentRootTimer := (bstpTimerExpired bp.recentRootTimer).1
    forwardDelayTimer := (bstpTimerExpired bp.forwardDelayTimer).1
    recentBackupTimer := (bstpTimerExpired bp.recentBackupTimer).1 }

def tickTimer (get : BstpPort → BstpTimer) (set : BstpTimer → BstpPort → BstpPort)
    (expiry : ℕ → World → World) (i : ℕ) (w : World) : World :=
  w.withPort i fun bp ↦
    let w := w.onPort i (set (bstpTimerExpired (get bp)).1)
    if (bstpTimerExpired (get bp)).2 then expiry i w else w

def tickHello : ℕ → World → World :=
  tickTimer (·.helloTimer) (fun t bp ↦ { bp with helloTimer := t }) (bstpHelloTimerExpiry H)

def tickMessageAge : ℕ → World → World :=
  tickTimer (·.messageAgeTimer) (fun t bp ↦ { bp with messageAgeTimer := t })
    (bstpMessageAgeExpiry H)

def tickMigrateDelay : ℕ → World → World :=
  tickTimer (·.migrateDelayTimer) (fun t bp ↦ { bp with migrateDelayTimer := t })
    fun i w ↦ w.onPort i bstpMigrateDelayExpiry

def tickEdgeDelay : ℕ → World → World :=
  tickTimer (·.edgeDelayTimer) (fun t bp ↦ { bp with edgeDelayTimer := t })
    fun i w ↦ w.onPort i bstpEdgeDelayExpiry

def tickMachines (i : ℕ) (w : World) : World :=
  bstpUpdateState H i (tickEdgeDelay i (tickMigrateDelay i (tickMessageAge H i
    (tickHello H i (w.onPort i passTimers)))))

def payPacket (bp : BstpPort) : BstpPort :=
  if bp.txcount > 0 then { bp with txcount := bp.txcount - 1 } else bp

def tickPort (i : ℕ) (w : World) : World := (tickMachines H i w).onPort i payPacket

def BstpState.bridgeId (bs : BstpState) : U64 := bridgeIdWord bs.bridgePriority H.bridgeAddr

def renewBridgePv (w : World) : World :=
  w.onBs fun bs ↦ { bs with bridgePv := ⟨bs.bridgeId H, bs.bridgeId H, 0, 0, 0⟩ }

def reinitStatus (i : ℕ) (w : World) : World :=
  bstpIfupdstatus H i (w.onPort i fun bp ↦
    { bp with portId := bp.priority.setWidth 16 <<< 8 ||| bp.ifp &&& 0xfff })

def startLinkTimer (w : World) : World :=
  w.onBs ({ · with linkTimer := bstpTimerStart bstpLinkTimer.toNat })

def bstpReinit (w : World) : World :=
  startLinkTimer (bstpAssignRoles H ((renewBridgePv H w).forPorts (reinitStatus H)))

def tickLink (w : World) : World :=
  let link := bstpTimerExpired w.bs.linkTimer
  let w := w.onBs ({ · with linkTimer := link.1 })
  if link.2 then startLinkTimer (w.forPorts (bstpIfupdstatus H)) else w

def bstpTick (w : World) : World :=
  if !w.bs.running then w else (tickLink H w).forPorts (tickPort H)

/-! ### Configuration -/

def noTimer : BstpTimer := ⟨false, false, 0⟩

def noPv : PriVector := ⟨0, 0, 0, 0, 0⟩

def noTimes : Times := ⟨0, 0, 0, 0⟩

def bstpAttach (vlanId : U16) : BstpState where
  vlanId := vlanId
  running := false
  bridgePv := noPv
  rootPv := noPv
  rootPort := none
  protover := .rstp
  migrationDelay := bstpDefaultMigrateDelay
  bridgeMaxAge := bstpDefaultMaxAge
  bridgeFdelay := bstpDefaultForwardDelay
  bridgeHtime := bstpDefaultHelloTime
  rootTimes := noTimes
  bridgePriority := bstpDefaultBridgePriority
  txholdcount := bstpDefaultHoldCount
  allsynced := false
  linkTimer := noTimer
  bplist := []

def bstpInit (w : World) : World := bstpReinit H (w.onBs ({ · with running := true }))

def bstpStop (w : World) : World :=
  (w.onPorts (bstpSetPortState .discarding)).onBs ({ · with running := false })

def blankPort (ifp : U16) : BstpPort where
  ifp := ifp
  active := false
  protover := .stp
  flags := ⟨false, false, false, false, false, false, false, false⟩
  pathCost := 0
  portTimes := noTimes
  desgTimes := noTimes
  edgeDelayTimer := noTimer
  forwardDelayTimer := noTimer
  helloTimer := noTimer
  messageAgeTimer := noTimer
  migrateDelayTimer := noTimer
  recentBackupTimer := noTimer
  recentRootTimer := noTimer
  tcTimer := noTimer
  msgCu := ⟨noPv, noTimes, 0, false, false, false, false, false, false, .disabled⟩
  desgPv := noPv
  portPv := noPv
  portId := 0
  state := .disabled
  tcstate := .active
  role := .disabled
  infois := .disabled
  tcAck := false
  tcProp := false
  fdbflush := false
  priority := 0
  ptpLink := false
  agree := false
  agreed := false
  sync := false
  synced := false
  proposing := false
  proposed := false
  operedge := false
  reroot := false
  rcvdtc := false
  rcvdtca := false
  rcvdtcn := false
  forwardTransitions := 0
  txcount := 0

/-- The new port of `bstp_create`. Its role is `BSTP_ROLE_DISABLED` from the start, so that
`bstp_set_port_role` does nothing. -/
def newPort (bs : BstpState) (stackWord : U32) (ifp : U16) : BstpPort :=
  let bp := { blankPort ifp with
    priority := bstpDefaultPortPriority, infois := .disabled
    flags.autoedge := true, flags.autoptp := true }
  let bp := bstpSetPortProto bs.migrationDelay bs.protover (bstpSetPortState .discarding bp)
  let bp := { bp with
    tcstate := .inactive, tcTimer := bstpTimerStop, fdbflush := true, tcAck := false }
  { bp with pathCost := bstpCalcPathCost stackWord bp }

def bstpEnable (i : ℕ) (w : World) : World :=
  let w := w.onPort i ({ · with active := true, flags.newinfo := true })
  bstpUpdateRoles H i (bstpReinit H w)

def bstpCreate (ifp : U16) (w : World) : World :=
  let i := w.bs.bplist.length
  let w := w.onBs fun bs ↦ { bs with bplist := bs.bplist ++ [newPort bs w.stackWord ifp] }
  if w.operState ifp = .up then bstpEnable H i w else w

def bstpDisable (i : ℕ) (w : World) : World :=
  bstpReinit H ((bstpDisablePort H i w).onBs fun bs ↦ { bs with bplist := bs.bplist.eraseIdx i })

def bstpLinkstate (ifp : U16) (w : World) : World :=
  match w.bs.bplist.findIdx? (·.ifp == ifp) with
  | none => w
  | some i => bstpUpdateState H i (bstpIfupdstatus H i w)

def setTime (low high : Int32) (set : U16 → BstpState → BstpState) (t : ℤ) (w : World) :
    World × ℤ :=
  if t < low.toInt ∨ high.toInt < t then (w, -1) else
    (bstpReinit H (w.onBs (set (BitVec.ofInt 16 t))), 0)

def bstpSetHtime : ℤ → World → World × ℤ :=
  setTime H bstpMinHelloTime bstpMaxHelloTime fun t bs ↦ { bs with bridgeHtime := t }

def bstpSetFdelay : ℤ → World → World × ℤ :=
  setTime H bstpMinForwardDelay bstpMaxForwardDelay fun t bs ↦ { bs with bridgeFdelay := t }

def bstpSetMaxage : ℤ → World → World × ℤ :=
  setTime H bstpMinMaxAge bstpMaxMaxAge fun t bs ↦ { bs with bridgeMaxAge := t }

def bstpSetHoldcount (count : ℤ) (w : World) : World × ℤ :=
  if count < bstpMinHoldCount ∨ bstpMaxHoldCount < count then (w, -1)
  else ((w.onBs ({ · with txholdcount := BitVec.ofInt 8 count })).onPorts
    ({ · with txcount := 0 }), 0)

def reinitPort (proto : Proto) (i : ℕ) (w : World) : World :=
  let w := w.onPort i ({ · with infois := .disabled, txcount := 0 })
  let w := w.onPort i (bstpSetPortProto w.bs.migrationDelay proto)
  let w := bstpSetPortTc H .inactive i (bstpSetPortRole H .disabled i w)
  w.onPort i ({ · with recentBackupTimer := bstpTimerStop })

def bstpSetProtocol (proto : U8) (w : World) : World × ℤ :=
  match Proto.ofNumber proto with
  | none => (w, -1)
  | some proto =>
    let w := w.onBs ({ · with protover := proto, bridgeHtime := bstpDefaultHelloTime })
    (bstpReinit H (w.forPorts (reinitPort H proto)), 0)

def bstpSetPriority (pri : ℤ) (w : World) : World × ℤ :=
  if pri < 0 ∨ bstpMaxPriority < pri then (w, -1)
  else
    (bstpReinit H (w.onBs ({ · with bridgePriority := BitVec.ofInt 16 (pri - pri.tmod 4096) })), 0)

def bstpSetPortPriority (i : ℕ) (pri : ℤ) (w : World) : World × ℤ :=
  if pri < 0 ∨ bstpMaxPortPriority < pri then (w, -1)
  else (bstpReinit H (w.onPort i ({ · with priority := BitVec.ofInt 8 (pri - pri.tmod 16) })), 0)

def costPort (pathCost stackWord : U32) (bp : BstpPort) : BstpPort :=
  let pathCost := if bp.protover = .stp && pathCost > 65535#32 then 65535 else pathCost
  if pathCost = 0 then
    let bp := { bp with flags.admcost := false }
    { bp with pathCost := bstpCalcPathCost stackWord bp }
  else { bp with pathCost := pathCost, flags.admcost := true }

def bstpSetPathCost (i : ℕ) (pathCost : U32) (w : World) : World × ℤ :=
  if pathCost > bstpMaxPathCost then (w, -1)
  else (bstpReinit H (w.onPort i (costPort pathCost w.stackWord)), 0)

def bstpSetEdge (i : ℕ) (set : Bool) (w : World) : World :=
  w.onPort i ({ · with operedge := set, flags.admedge := set })

def bstpSetAutoedge (i : ℕ) (set : Bool) (w : World) : World :=
  w.onPort i fun bp ↦
    let bp := { bp with flags.autoedge := set }
    if set && !bp.edgeDelayTimer.active then bstpEdgeDelayExpiry bp else bp

def bstpSetPtp (i : ℕ) (set : Bool) (w : World) : World := w.onPort i ({ · with ptpLink := set })

def bstpSetAutoptp (i : ℕ) (set : Bool) (w : World) : World :=
  w.withPort i fun bp ↦
    let w := w.onPort i ({ · with flags.autoptp := set })
    if set && bp.role ≠ .disabled then bstpIfupdstatus H i w else w

def rstpSetBridgeTimes (fdly maxage htime : Int32) (w : World) : World × ℤ :=
  let htime := if htime < 0 then promoted w.bs.bridgeHtime else htime
  let fdly := if fdly < 0 then promoted w.bs.bridgeFdelay else fdly
  let maxage := if maxage < 0 then promoted w.bs.bridgeMaxAge else maxage
  if bridgeTimerRelation fdly maxage htime ≠ 0 then (w, -1)
  else
    (bstpReinit H (w.onBs ({ · with
      bridgeMaxAge := maxage.toBitVec.setWidth 16
      bridgeFdelay := fdly.toBitVec.setWidth 16
      bridgeHtime := htime.toBitVec.setWidth 16 })), 0)

end Layer3Switch.Bstp
