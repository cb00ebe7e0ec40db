import Slan.Client.ControlSync
import Slan.Lib.Transition

/-! # Runs of `control_sync` calls

A call is cut at its reads, at the end of its drain, and at what it asks of the controller and of
the tunnel manager. The facade lets one call run at a time. Envelopes are numbered as they are
read.
-/

namespace Slan.Client

/-- How far a call has come, with its local variables. -/
inductive SyncPhase where
  | idle
  /-- The stored client waits for the `pong`. -/
  | pinging (config : ControlWsConfig)
  /-- The stored client waits for the `network_map_response`. -/
  | requesting (config : ControlWsConfig)
  | connecting (config : ControlWsConfig)
  /-- The fresh client waits for the `node_hello_ack`. -/
  | greeting (config : ControlWsConfig) (client : ControlWsClient)
  /-- The fresh client waits for the `network_map_response`. -/
  | mapping (config : ControlWsConfig) (client : ControlWsClient) (ack : NodeHelloAck)
  /-- `drain_pending_events`, of a fresh client or of the stored one. -/
  | draining (config : ControlWsConfig) (fresh : Option (ControlWsClient × NodeHelloAck))
    (networkMap : NetworkMap) (left : Nat) (events : List Received)
  | finishing (config : ControlWsConfig) (update : ControlWsBootstrapUpdate)
    (events : List Received)
  | reapplying (reapply : TunnelReapply)

/-- A `failure` is that of the writes and the changes of timeouts that come next. -/
inductive SyncAction where
  | call (failure : Option String)
  | connect (upgrade : Except String Unit) (failure : Option String)
  | read (incoming : Incoming) (failure : Option String)
  | pop
  | drained (failure : Option String)
  | finish (controller : Controller)
  | reapply (generate : TunnelKeyProvider) (manager : TunnelManager) (nowMs : Nat)

/-- The facade and the call that is running, with what has been read, acknowledged and applied. -/
structure Sync where
  facade : Facade
  phase : SyncPhase
  /-- How many envelopes have been read. -/
  reads : Nat
  /-- The envelopes for which an acknowledgement was sent. -/
  acked : List (Nat × Envelope)
  /-- The envelopes whose events the snapshot has taken up. -/
  applied : List Nat

def Facade.queued (facade : Facade) : List Received :=
  (facade.controlWs.map ControlWsClient.queuedEvents).getD []

def Facade.withClient (facade : Facade) (client : ControlWsClient) : Facade :=
  { facade with controlWs := some client }

/-- Events that only the running call has: those drained, and those queued in a fresh client. -/
def SyncPhase.held : SyncPhase → List Received
  | .greeting _ client => client.queuedEvents
  | .mapping _ client _ => client.queuedEvents
  | .draining _ none _ _ events => events
  | .draining _ (some (client, _)) _ _ events => events ++ client.queuedEvents
  | .finishing _ _ events => events
  | _ => []

namespace Sync

def start (state : AppCoreSnapshot) (currentTunnelPeerVirtualIp : Option String) : Sync where
  facade := { state, controlWs := none, currentTunnelPeerVirtualIp }
  phase := .idle
  reads := 0
  acked := []
  applied := []

def drainLimit : Nat := 32

/-- Go on, if the writes succeed. -/
def sent (failure : Option String) (phase : SyncPhase) : Except String SyncPhase :=
  match failure with
  | none => .ok phase
  | some err => .error err

/-- The client that the call reads from. -/
def reader (s : Sync) : Option ControlWsClient :=
  match s.phase with
  | .pinging _ | .requesting _ | .draining _ none _ _ _ => s.facade.controlWs
  | .greeting _ client | .mapping _ client _ | .draining _ (some (client, _)) _ _ _ => some client
  | _ => none

/-- After the drain; only now a fresh client is stored. -/
def endDrain (s : Sync) (config : ControlWsConfig)
    (fresh : Option (ControlWsClient × NodeHelloAck)) (networkMap : NetworkMap)
    (events : List Received) (failure : Option String) : Facade × Except String SyncPhase :=
  match failure, fresh with
  | some err, _ => (s.facade, .error err)
  | none, none =>
    (s.facade, .ok (.finishing config
      (drainedUpdate networkMap 0 s.facade.state.currentConnectPlans events) events))
  | none, some (client, ack) =>
    (s.facade.withClient client, .ok (.finishing config
      (drainedUpdate networkMap ack.heartbeatSeconds ∅ events) events))

/-- A read, by the client that the call reads from. -/
def readStep (texts : ControlTexts) (s : Sync) (client : ControlWsClient) (incoming : Incoming)
    (failure : Option String) : Option (Facade × Except String SyncPhase) :=
  let enqueued (event : ControlWsEvent) : ControlWsClient := client.enqueue ⟨s.reads, event⟩
  match s.phase with
  | .pinging config =>
    match ControlWsClient.readPong texts incoming with
    | .ok (.event event) => some (s.facade.withClient (enqueued event), .ok (.pinging config))
    | .ok (.answer _) =>
      -- the observations and the request; any failure before the drain means a new connection
      match failure with
      | none => some (s.facade, .ok (.requesting config))
      | some _ => some (s.facade, .ok (.connecting config))
    | .error _ => some (s.facade, .ok (.connecting config))
  | .requesting config =>
    match ControlWsClient.readNetworkMap texts incoming with
    | .ok (.event event) => some (s.facade.withClient (enqueued event), .ok (.requesting config))
    | .ok (.answer networkMap) =>
      some (s.facade, sent failure (.draining config none networkMap drainLimit []))
    | .error _ => some (s.facade, .ok (.connecting config))
  | .greeting config _ =>
    match ControlWsClient.readHelloAck texts incoming with
    | .ok (.event event) => some (s.facade, .ok (.greeting config (enqueued event)))
    | .ok (.answer ack) => some (s.facade, .ok (.mapping config client ack))
    | .error err => some (s.facade, .error err)
  | .mapping config _ ack =>
    match ControlWsClient.readNetworkMap texts incoming with
    | .ok (.event event) => some (s.facade, .ok (.mapping config (enqueued event) ack))
    | .ok (.answer networkMap) =>
      some (s.facade, sent failure (.draining config (some (client, ack)) networkMap drainLimit []))
    | .error err => some (s.facade, .error err)
  | .draining config fresh networkMap (left + 1) events =>
    if client.queuedEvents = [] then
      match ControlWsClient.readEvent texts incoming with
      | .ok event =>
        some (s.facade, .ok (.draining config fresh networkMap left (events ++ [⟨s.reads, event⟩])))
      | .error err =>
        if isControlWsTimeoutError err then
          some (s.endDrain config fresh networkMap events failure)
        else some (s.facade, .error err)
    else none
  | _ => none

/-- One step of the call: the facade after it, and how the call goes on; with an error, it has
returned. -/
def advance (texts : ControlTexts) (s : Sync) :
    SyncAction → Option (Facade × Except String SyncPhase)
  | .call failure =>
    match s.phase with
    | .idle =>
      match controlWsConfig s.facade.state with
      | .error err => some (s.facade, .error err)
      | .ok config =>
        match s.facade.controlWs, failure with
        | some _, none => some (s.facade, .ok (.pinging config))
        | _, _ => some (s.facade, .ok (.connecting config))
    | _ => none
  | .connect upgrade failure =>
    match s.phase with
    | .connecting config =>
      match ControlWsClient.connect config upgrade with
      | .ok client => some (s.facade, sent failure (.greeting config client))
      | .error err => some (s.facade, .error err)
    | _ => none
  | .read incoming failure =>
    match s.reader with
    | some client => s.readStep texts client incoming failure
    | none => none
  | .pop =>
    match s.phase, s.reader with
    | .draining config fresh networkMap (left + 1) events, some client =>
      match client.queuedEvents with
      | [] => none
      | received :: rest =>
        let client := { client with queuedEvents := rest }
        match fresh with
        | none =>
          some (s.facade.withClient client,
            .ok (.draining config none networkMap left (events ++ [received])))
        | some (_, ack) =>
          some (s.facade,
            .ok (.draining config (some (client, ack)) networkMap left (events ++ [received])))
    | _, _ => none
  | .drained failure =>
    match s.phase with
    | .draining config fresh networkMap 0 events =>
      some (s.endDrain config fresh networkMap events failure)
    | _ => none
  | .finish controller =>
    match s.phase with
    | .finishing config update _ =>
      match enableNetwork controller config s.facade.state update >>=
        commitUpdate s.facade.state with
      | .error err => some (s.facade, .error err)
      | .ok (state, _, none) => some ({ s.facade with state }, .ok .idle)
      | .ok (state, _, some reapply) => some ({ s.facade with state }, .ok (.reapplying reapply))
    | _ => none
  | .reapply generate manager nowMs =>
    match s.phase with
    | .reapplying reapply =>
      let (result, facade) := reapplyTunnel s.facade generate manager nowMs reapply
      some (facade, result.map fun _ => .idle)
    | _ => none

/-! ## What becomes of the envelopes -/

/-- The envelope that a read acknowledges, with its number. -/
def ackedBy (s : Sync) : SyncAction → List (Nat × Envelope)
  | .read incoming _ =>
    match s.reader with
    | some client => (client.acknowledged incoming).toList.map fun envelope => (s.reads, envelope)
    | none => []
  | _ => []

/-- The snapshot takes up every drained event, but of those drained before a switch to another
network only the ones that ask for it. -/
def takenUp (s : Sync) (update : ControlWsBootstrapUpdate) : ControlWsEvent → Bool
  | .activeNetworkEnabled _ => true
  | _ => (update.switches s.facade.state).isNone

def appliedBy (texts : ControlTexts) (s : Sync) (a : SyncAction) : List Received :=
  match s.phase, s.advance texts a with
  | .finishing _ update events, some (_, .ok _) =>
    events.filter fun received => s.takenUp update received.event
  | _, _ => []

def readsBy : SyncAction → Nat
  | .read _ _ => 1
  | _ => 0

/-- The phase after a step; an error has ended the call. -/
def phaseAfter : Except String SyncPhase → SyncPhase
  | .ok phase => phase
  | .error _ => .idle

def step (texts : ControlTexts) (s : Sync) (a : SyncAction) : Option Sync :=
  (s.advance texts a).map fun (facade, next) => {
    facade
    phase := phaseAfter next
    reads := s.reads + readsBy a
    acked := s.ackedBy a ++ s.acked
    applied := (s.appliedBy texts a).map Received.serial ++ s.applied }

end Sync

end Slan.Client
