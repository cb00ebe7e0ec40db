import Slan.Relay.Runtime

/-! # `relay-daemon/daemon`: the loop that serves datagrams

A datagram comes with the time of its arrival, and with what the socket makes of each response
that is sent while it is answered.
-/

namespace Slan.Relay

/-- What the daemon takes from `serde_json`: reading JSON, and its texts. -/
structure DaemonCrates extends Crates where
  parse : List UInt8 → Except String Json
  jsonError : Json.DecodeError → String

structure Datagram where
  source : SocketAddr
  now : Int
  payload : List UInt8
  sendTo : SocketAddr → ServerResponse → Except String Unit

/-- A response that is handed to the socket, and what comes of it. -/
structure Sending where
  target : SocketAddr
  response : ServerResponse
  result : Except String Unit

/-- Of a run of the loop: the runtime, the responses, and the error that ended it. -/
structure Served where
  runtime : RelayRuntime
  sendings : List Sending
  stopped : Option String

namespace Datagram

variable (crates : DaemonCrates) (d : Datagram)

/-- The buffer holds 64 KiB. -/
def request : Except String ClientRequest :=
  match crates.parse (d.payload.take (64 * 1024)) with
  | .error err => .error ("decode relay request: " ++ err)
  | .ok json =>
    match ClientRequest.decode json with
    | .error err => .error ("decode relay request: " ++ crates.jsonError err)
    | .ok request => .ok request

def sending (response : SocketAddr × ServerResponse) : Sending :=
  ⟨response.1, response.2, d.sendTo response.1 response.2⟩

/-- `send_response(..)?`, one after the other. -/
def sendResponses : List (SocketAddr × ServerResponse) → List Sending × Option String
  | [] => ([], none)
  | response :: responses =>
    match d.sendTo response.1 response.2 with
    | .error err => ([d.sending response], some ("send relay udp response: " ++ err))
    | .ok () => (d.sending response :: (sendResponses responses).1, (sendResponses responses).2)

/-- One turn of the loop. -/
def serve (rt : RelayRuntime) : Served :=
  match d.request crates with
  | .error err => ⟨rt, [], some err⟩
  | .ok request =>
    let (result, rt) := rt.handleRequest crates.toCrates d.now d.source request
    let (sendings, stopped) := d.sendResponses (RelayRuntime.responses d.source result)
    ⟨rt, sendings, stopped⟩

end Datagram

/-- The loop, over the datagrams that come. -/
def serve (crates : DaemonCrates) (rt : RelayRuntime) : List Datagram → Served
  | [] => ⟨rt, [], none⟩
  | d :: ds =>
    let first := d.serve crates rt
    match first.stopped with
    | some _ => first
    | none =>
      let rest := serve crates first.runtime ds
      { rest with sendings := first.sendings ++ rest.sendings }

/-! ## A daemon that stays in service

Every datagram is answered, whatever becomes of those before it. One that is no request is dropped.
-/

structure Answered where
  runtime : RelayRuntime
  sendings : List Sending

/-- How a datagram is to be answered. -/
def Datagram.answer (crates : DaemonCrates) (rt : RelayRuntime) (d : Datagram) : Answered :=
  match d.request crates with
  | .error _ => ⟨rt, []⟩
  | .ok request =>
    let (result, rt) := rt.handleRequest crates.toCrates d.now d.source request
    ⟨rt, (RelayRuntime.responses d.source result).map d.sending⟩

def answerAll (crates : DaemonCrates) (rt : RelayRuntime) : List Datagram → Answered
  | [] => ⟨rt, []⟩
  | d :: ds =>
    let first := d.answer crates rt
    let rest := answerAll crates first.runtime ds
    ⟨rest.runtime, first.sendings ++ rest.sendings⟩

/-- The loop goes on, and has answered all datagrams. -/
structure InService (crates : DaemonCrates) (rt : RelayRuntime) (ds : List Datagram) : Prop where
  running : (serve crates rt ds).stopped = none
  runtime : (serve crates rt ds).runtime = (answerAll crates rt ds).runtime
  sendings : (serve crates rt ds).sendings = (answerAll crates rt ds).sendings

section

variable {crates : DaemonCrates} {rt : RelayRuntime} {d : Datagram} {ds : List Datagram}

/-- A datagram that is no request has no effect on the answers to the others. -/
theorem answerAll_filter (crates : DaemonCrates) (rt : RelayRuntime) (ds : List Datagram) :
    answerAll crates rt (ds.filter fun d => (d.request crates).isOk) = answerAll crates rt ds := by
  induction ds generalizing rt with
  | nil => rfl
  | cons d ds ih =>
    cases hrequest : d.request crates with
    | error err =>
      have hanswer : d.answer crates rt = ⟨rt, []⟩ := by
        unfold Datagram.answer
        rw [hrequest]
      rw [List.filter_cons_of_neg (by simp [hrequest, Except.isOk, Except.toBool]), ih]
      simp only [answerAll, hanswer, List.nil_append]
    | ok request =>
      rw [List.filter_cons_of_pos (by simp [hrequest, Except.isOk, Except.toBool])]
      simp only [answerAll, ih]

/-! ## One turn -/

theorem Datagram.sendResponses_of_sent {responses : List (SocketAddr × ServerResponse)}
    (h : ∀ s ∈ responses.map d.sending, s.result = .ok ()) :
    d.sendResponses responses = (responses.map d.sending, none) := by
  induction responses with
  | nil => rfl
  | cons response responses ih =>
    rw [List.map_cons, List.forall_mem_cons] at h
    have hsent : d.sendTo response.1 response.2 = .ok () := h.1
    rw [sendResponses, hsent, ih h.2, List.map_cons]

theorem Datagram.sent_of_sendResponses {responses : List (SocketAddr × ServerResponse)}
    (h : (d.sendResponses responses).2 = none) :
    ∀ s ∈ responses.map d.sending, s.result = .ok () := by
  induction responses with
  | nil => exact nofun
  | cons response responses ih =>
    rw [List.map_cons, List.forall_mem_cons]
    cases hsent : d.sendTo response.1 response.2 with
    | error err =>
      rw [sendResponses, hsent] at h
      cases h
    | ok u =>
      rw [sendResponses, hsent] at h
      exact ⟨hsent, ih h⟩

/-- The loop goes on after a request whose responses are all sent. -/
theorem Datagram.serve_stopped_eq_none :
    (d.serve crates rt).stopped = none ↔
      (∃ request, d.request crates = .ok request) ∧
        ∀ s ∈ (d.answer crates rt).sendings, s.result = .ok () := by
  unfold Datagram.serve Datagram.answer
  cases hrequest : d.request crates with
  | error err => exact iff_of_false nofun fun h => nomatch h.1
  | ok request =>
    rcases rt.handleRequest crates.toCrates d.now d.source request with ⟨result, rt'⟩
    constructor
    · intro h
      exact ⟨⟨request, rfl⟩, sent_of_sendResponses h⟩
    · intro h
      change (d.sendResponses _).2 = none
      rw [sendResponses_of_sent h.2]

theorem Datagram.serve_of_running (h : (d.serve crates rt).stopped = none) :
    d.serve crates rt = ⟨(d.answer crates rt).runtime, (d.answer crates rt).sendings, none⟩ := by
  obtain ⟨⟨request, hrequest⟩, hsent⟩ := serve_stopped_eq_none.mp h
  unfold Datagram.answer at hsent
  unfold Datagram.serve Datagram.answer
  rcases hhandle : rt.handleRequest crates.toCrates d.now d.source request with ⟨result, rt'⟩
  simp only [hrequest, hhandle] at hsent ⊢
  rw [sendResponses_of_sent hsent]

/-! ## The loop -/

theorem serve_cons_of_running (h : (d.serve crates rt).stopped = none) :
    serve crates rt (d :: ds) =
      { serve crates (d.answer crates rt).runtime ds with
        sendings := (d.answer crates rt).sendings ++
          (serve crates (d.answer crates rt).runtime ds).sendings } := by
  rw [serve]
  simp only [Datagram.serve_of_running h]

theorem running_of_serve_cons (h : (serve crates rt (d :: ds)).stopped = none) :
    (d.serve crates rt).stopped = none := by
  cases hstopped : (d.serve crates rt).stopped with
  | none => rfl
  | some err =>
    simp only [serve, hstopped] at h
    exact absurd h nofun

/-- The daemon stays in service exactly while only requests come, and every response is sent. -/
theorem inService_iff (crates : DaemonCrates) (rt : RelayRuntime) (ds : List Datagram) :
    InService crates rt ds ↔
      (∀ d ∈ ds, ∃ request, d.request crates = .ok request) ∧
        ∀ s ∈ (answerAll crates rt ds).sendings, s.result = .ok () := by
  induction ds generalizing rt with
  | nil => exact iff_of_true ⟨rfl, rfl, rfl⟩ ⟨nofun, nofun⟩
  | cons d ds ih =>
    have hrest := ih (d.answer crates rt).runtime
    constructor
    · intro h
      have hfirst := running_of_serve_cons h.running
      obtain ⟨hrequest, hsent⟩ := Datagram.serve_stopped_eq_none.mp hfirst
      obtain ⟨hrunning, hruntime, hsendings⟩ := h
      rw [serve_cons_of_running hfirst] at hrunning hruntime hsendings
      obtain ⟨hrequests, hsents⟩ :=
        hrest.mp ⟨hrunning, hruntime, List.append_cancel_left hsendings⟩
      exact ⟨List.forall_mem_cons.mpr ⟨hrequest, hrequests⟩,
        List.forall_mem_append.mpr ⟨hsent, hsents⟩⟩
    · rintro ⟨hrequests, hsents⟩
      obtain ⟨hrequest, hrequests⟩ := List.forall_mem_cons.mp hrequests
      obtain ⟨hsent, hsents⟩ := List.forall_mem_append.mp hsents
      have hfirst := Datagram.serve_stopped_eq_none.mpr ⟨hrequest, hsent⟩
      obtain ⟨hrunning, hruntime, hsendings⟩ := hrest.mpr ⟨hrequests, hsents⟩
      refine ⟨?_, ?_, ?_⟩ <;> rw [serve_cons_of_running hfirst]
      · exact hrunning
      · exact hruntime
      · exact congrArg (_ ++ ·) hsendings

end

/-! ## One datagram from anywhere -/

/-- No bytes are no JSON. -/
def emptyCrates : DaemonCrates where
  hmacSha256 _ _ := []
  base64Error _ := "Invalid padding"
  parse _ := .error "EOF while parsing a value at line 1 column 0"
  jsonError _ := "invalid request"

def emptyDatagram : Datagram where
  source := ⟨"203.0.113.7", 40000⟩
  now := 1700000000
  payload := []
  sendTo _ _ := .ok ()

theorem emptyDatagram_stops : ¬ ∀ (crates : DaemonCrates) (relayUrlPrefix secret : Option String)
    (ds : List Datagram), InService crates (.new relayUrlPrefix secret) ds := by
  intro hclaim
  have hservice := hclaim emptyCrates none none [emptyDatagram]
  cases hservice.running

end Slan.Relay
