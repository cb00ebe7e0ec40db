import Slan.Client.DerpPool

/-! # `InMemoryDerpPool`: its operations

What a client does is given with each operation: what each of its calls returns, and the snapshot
that it makes of itself after the call. The lock is taken to be sound.
-/

namespace Slan.Client

structure ClientCall (α : Type) where
  result : Except String α
  client : DerpLinkSnapshot

/-- A `DerpClient`, as one operation finds it. -/
structure DerpClient where
  connectNode : DerpNodeMeta → ClientCall Unit
  attachTicket : RelayTicket → ClientCall Unit
  sendTransportPacket : List UInt8 → ClientCall Unit
  pollTransportPacket : ClientCall (Option (List UInt8))
  probe : ClientCall ProbeSample
  close : ClientCall Unit

inductive SwitchReason where
  | bootstrapPreferred
  | probeTimeout
  | highRtt
  | highLoss
  | sendFailure
  | manual
  deriving DecidableEq, Repr

structure DerpSwitchEvent where
  clusterId : String
  fromNodeId : Option String
  toNodeId : String
  reason : SwitchReason
  happenedAtMs : Nat
  deriving DecidableEq, Repr

structure InMemoryDerpPool extends DerpPoolState where
  clusterId : String
  sessionId : String
  ticket : Option RelayTicket
  switchEpoch : UInt64

/-! ## One link -/

namespace ManagedLink

def ensureLinkReady (link : ManagedLink) (client : DerpClient) (ticket : RelayTicket) :
    Except String Unit × ManagedLink :=
  if link.client.usable then (.ok (), { link with lastError := none })
  else
    let connected := client.connectNode link.nodeMeta
    match connected.result with
    | .error err => (.error err, { link with client := connected.client })
    | .ok () =>
      let attached := client.attachTicket ticket
      match attached.result with
      | .error err => (.error err, { link with client := attached.client })
      | .ok () => (.ok (), { link with client := attached.client, lastError := none })

/-- A link that `warm_up` leaves cold. -/
def cool (link : ManagedLink) (client : DerpClient) : ManagedLink :=
  { link with client := client.close.client, lastError := none }

/-- What `tick_health_check` does with a link. -/
def tick (link : ManagedLink) (client : DerpClient) : ManagedLink :=
  if link.client.usable then
    let failed : ManagedLink := { link with
      client := client.probe.client
      timeoutCount := satAdd link.timeoutCount 1
      consecutiveFailures := satAdd link.consecutiveFailures 1 }
    match client.probe.result with
    | .ok probe =>
      if probe.timedOut then { failed with lastProbe := some probe, lastError := none }
      else { link with
        client := client.probe.client
        consecutiveFailures := 0
        lastProbe := some probe
        lastError := none }
    | .error err => { failed with lastError := some err }
  else link

end ManagedLink

/-! ## The links -/

/-- The loop of `warm_up`, from the link at `idx` on. -/
def warmLinks (clients : Nat → DerpClient) (ticket : RelayTicket) (warmCount idx : Nat) :
    List ManagedLink → Except String Unit × List ManagedLink
  | [] => (.ok (), [])
  | link :: rest =>
    if idx < warmCount then
      match link.ensureLinkReady (clients idx) ticket with
      | (.error err, link) => (.error err, { link with lastError := some err } :: rest)
      | (.ok (), link) =>
        let (result, rest) := warmLinks clients ticket warmCount (idx + 1) rest
        (result, link :: rest)
    else
      let (result, rest) := warmLinks clients ticket warmCount (idx + 1) rest
      (result, link.cool (clients idx) :: rest)

/-- The loop of `close`: it stops at the first client that fails to close. -/
def closeLinks (clients : Nat → DerpClient) (idx : Nat) :
    List ManagedLink → Except String Unit × List ManagedLink
  | [] => (.ok (), [])
  | link :: rest =>
    let closed := (clients idx).close
    match closed.result with
    | .error err => (.error err, { link with client := closed.client } :: rest)
    | .ok () =>
      let (result, rest) := closeLinks clients (idx + 1) rest
      (result, { link with client := closed.client, lastError := none } :: rest)

namespace InMemoryDerpPool

def new : InMemoryDerpPool where
  activeNodeId := none
  links := []
  clusterId := ""
  sessionId := ""
  ticket := none
  switchEpoch := 0

def nodeAt (pool : InMemoryDerpPool) (idx : Nat) : Option String :=
  pool.links[idx]?.map fun link => link.nodeMeta.nodeId

/-- The first link of that node. -/
def position (pool : InMemoryDerpPool) (nodeId : String) : Option Nat :=
  pool.links.findIdx? fun link => link.nodeMeta.nodeId == nodeId

/-- The node of the link that `choose_active_index` chooses. -/
def chosenNode (pool : InMemoryDerpPool) : Option String :=
  (chooseActiveIndex pool.collectSnapshots).bind pool.nodeAt

/-! ## The operations -/

/-- The old clients are closed, whatever that gives, and dropped. `fresh` is the snapshot of a
client of the factory. -/
def installCluster (pool : InMemoryDerpPool) (clusterId : String) (nodes : List DerpNodeMeta)
    (ticket : RelayTicket) (fresh : DerpLinkSnapshot) (nowMs : Nat) : InMemoryDerpPool :=
  { pool with
    clusterId
    sessionId := ticket.sessionId
    ticket := some ticket
    activeNodeId := none
    links := nodes.map fun nodeMeta =>
      { nodeMeta
        client := fresh
        lastProbe := some ⟨0, false, 0, nowMs⟩
        timeoutCount := 0
        consecutiveFailures := 0
        lastError := none }
    switchEpoch := 0 }

def warmUp (pool : InMemoryDerpPool) (clients : Nat → DerpClient) (fanout : Nat) :
    Except String Unit × InMemoryDerpPool :=
  if pool.links = [] then (.error "derp pool has no installed cluster", pool)
  else
    match pool.ticket with
    | none => (.error "derp pool has no installed ticket", pool)
    | some ticket =>
      let warmCount := min (max fanout 1) pool.links.length
      match warmLinks clients ticket warmCount 0 pool.links with
      | (.error err, links) => (.error err, { pool with links })
      | (.ok (), links) =>
        let warmed := { pool with links }
        (.ok (), { warmed with activeNodeId := warmed.chosenNode })

/-- The pool after a call to the client of one link. -/
def called (pool : InMemoryDerpPool) (idx : Nat) (client : DerpLinkSnapshot) : InMemoryDerpPool :=
  { pool with links := pool.links.modify idx fun link => { link with client } }

/-- A call to the client of the active node's first link. -/
def callActive {α : Type} (pool : InMemoryDerpPool) (call : Nat → ClientCall α) :
    Except String α × InMemoryDerpPool :=
  match pool.activeNodeId with
  | none => (.error "derp pool has no active link", pool)
  | some nodeId =>
    match pool.position nodeId with
    | none => (.error "derp pool active node missing", pool)
    | some idx => ((call idx).result, pool.called idx (call idx).client)

def sendTransportPacketViaActive (pool : InMemoryDerpPool) (clients : Nat → DerpClient)
    (packet : List UInt8) : Except String Unit × InMemoryDerpPool :=
  if packet = [] then (.error "cannot send empty packet via derp active link", pool)
  else pool.callActive fun idx => (clients idx).sendTransportPacket packet

def pollTransportPacketViaActive (pool : InMemoryDerpPool) (clients : Nat → DerpClient) :
    Except String (Option (List UInt8)) × InMemoryDerpPool :=
  pool.callActive fun idx => (clients idx).pollTransportPacket

def tickHealthCheck (pool : InMemoryDerpPool) (clients : Nat → DerpClient) : InMemoryDerpPool :=
  { pool with links := pool.links.mapIdx fun idx link => link.tick (clients idx) }

def maybeSwitch (pool : InMemoryDerpPool) (nowMs : Nat) :
    Option DerpSwitchEvent × InMemoryDerpPool :=
  match pool.chosenNode with
  | none => (none, pool)
  | some target =>
    if pool.activeNodeId = some target then (none, pool)
    else
      (some ⟨pool.clusterId, pool.activeNodeId, target, .bootstrapPreferred, nowMs⟩,
        { pool with activeNodeId := some target, switchEpoch := pool.switchEpoch + 1 })

def forceSwitch (pool : InMemoryDerpPool) (clients : Nat → DerpClient) (target : String)
    (reason : SwitchReason) (nowMs : Nat) : Except String DerpSwitchEvent × InMemoryDerpPool :=
  match pool.ticket with
  | none => (.error "derp pool has no installed ticket", pool)
  | some ticket =>
    match pool.position target with
    | none => (.error ("derp node not found: " ++ target), pool)
    | some idx =>
      match pool.links[idx]?.map fun link => link.ensureLinkReady (clients idx) ticket with
      | none => (.error ("derp node not found: " ++ target), pool)
      | some (.error err, link) => (.error err, { pool with links := pool.links.set idx link })
      | some (.ok (), link) =>
        (.ok ⟨pool.clusterId, pool.activeNodeId, target, reason, nowMs⟩,
          { pool with
            links := pool.links.set idx link
            activeNodeId := some target
            switchEpoch := pool.switchEpoch + 1 })

def close (pool : InMemoryDerpPool) (clients : Nat → DerpClient) :
    Except String Unit × InMemoryDerpPool :=
  match closeLinks clients 0 pool.links with
  | (.error err, links) => (.error err, { pool with links })
  | (.ok (), links) => (.ok (), { pool with links, activeNodeId := none })

end InMemoryDerpPool

/-! ## A chosen link -/

theorem DerpPoolState.getElem?_collectSnapshots (pool : DerpPoolState) (i : Nat) :
    pool.collectSnapshots[i]? = pool.links[i]?.map fun link =>
      link.snapshot (pool.activeNodeId == some link.nodeMeta.nodeId) := by
  rw [collectSnapshots, List.getElem?_map]

/-- A link is as usable as its client. -/
theorem ManagedLink.snapshot_usable (link : ManagedLink) (isActive : Bool) :
    (link.snapshot isActive).usable = link.client.usable := by
  cases hstate : link.client.state <;>
    simp only [ManagedLink.snapshot, DerpLinkSnapshot.usable, hstate] <;> grind

theorem ManagedLink.snapshot_key (link : ManagedLink) (isActive : Bool) :
    (link.snapshot isActive).key = toLex (link.score.toNat, link.nodeMeta.priority.toNat) := by
  rw [DerpLinkSnapshot.key, ManagedLink.snapshot_score, ManagedLink.snapshot_nodeMeta]

end Slan.Client
