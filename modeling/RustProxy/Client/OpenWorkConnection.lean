import RustProxy.Bridge.Fidelity
import RustProxy.Client.ProxyProtocol
import RustProxy.Client.Worker
import RustProxy.Foundation.Simulation

/-!
# A work connection from its opening on

`open_work_connection` of `crates/client/src/proxy_worker.rs`, from the dialling of the server to the
end of `bridge_local_tcp_to_framed`, together with the server's bridge at the other end, which starts
as soon as it has the confirmation and may read from its user before the local service is reached.

* `openStep` is one step of either end; what the network, the local service and the scheduler decide
  is in the label.
* `tunnelSteps` reads the steps as steps of the two bridges.  The opening takes none; a client that
  does not reach its service does what a client does whose service closes at once.
* `work_connection_simulated` and `service_is_told` are about runs: the tunnel of a work connection is a
  tunnel as it is verified in the bridges' modules, and the local service reads the whole PROXY header
  before the first byte of its user.
-/

namespace RustProxy.Client

open RustProxy.Proto RustProxy.Bridge Transition
open ProxyHeader InetAddr

/-- Where `open_work_connection` is. -/
inductive OpenPc where
  /-- The TCP and the TLS connection to the server are made. -/
  | dialing
  /-- `NewWorkConnResp` is sent. -/
  | confirming
  /-- The local service is connected to. -/
  | connecting
  /-- The local service was not reached; an empty message is sent to the server. -/
  | refusing
  /-- `write_all(&header)`, with the part that the service has not taken yet. -/
  | injecting (rest : Bytes)
  /-- `bridge_local_tcp_to_framed` -/
  | bridging
  /-- `bridge_udp_to_framed` -/
  | bridgingUdp
  /-- An error before the server can have the confirmation. -/
  | failed
  /-- An error after it. -/
  | dropped
  deriving DecidableEq, Repr

/-- The server may have matched the work connection with its user. -/
def OpenPc.confirmed : OpenPc → Bool
  | .connecting => true
  | .refusing => true
  | .injecting _ => true
  | .bridging => true
  | .dropped => true
  | _ => false

/-- A work connection: the two bridges with the queues between them, and what has been written of the
PROXY header. -/
structure WorkConn where
  pc : OpenPc
  tunnel : System
  header : Bytes

/-- `NewWorkConn` has arrived. -/
def WorkConn.start : WorkConn := { pc := .dialing, tunnel := .start, header := [] }

/-- All that the local service has been sent. -/
def WorkConn.received (s : WorkConn) : Bytes := s.header ++ (s.tunnel.out .server).put

/-- The client's end of a tunnel is at another await, and has changed the direction from it. -/
def setClient (t : System) (pc : Pc) (d : Direction) : System where
  bridge := Function.update t.bridge .client ((t.bridge .client).goto pc)
  out := Function.update t.out .client d

/-- The client's end of the work connection is gone, without its bridge having run. -/
def hangUp (t : System) : System := setClient t .ended (t.out .client)

variable (cap : Side → ℕ) (connId : UInt64)

/-- The close marker is sent, or the sending fails, and the client's end is gone.  Nothing will come
from a local service. -/
def refuse (t : System) (queued : Bool) : System :=
  setClient t .ended
    { t.out .client with
      eof := true
      queue := (t.out .client).queue ++ if queued then [chunk connId []] else [] }

variable (target : WorkTarget) (userAddr : Option String)

/-- After the connection to the local service: the header is written, if there is to be one and it can
be made. -/
def afterConnect : OpenPc :=
  let ppVersion := target.proxyProtocol.getD ""
  if ppVersion = "" then .bridging
  else
    match injectProxyProtocol userAddr ppVersion with
    | .ok header => .injecting header
    | .error _ => .bridging

/-- A step of the client's or of the server's end. -/
inductive OpenLabel where
  | dialed (ok : Bool)
  | confirmed (ok : Bool)
  | connected (ok : Bool)
  | refused (queued : Bool)
  | headerWrote (k : ℕ)
  | headerFailed
  | server (event : Event)
  | client (event : Event)
  deriving DecidableEq, Repr

/-- Source: `proxy_worker.rs`, `open_work_connection` and `inject_proxy_protocol`, and the bridge of the
server. -/
def openStep (s : WorkConn) : OpenLabel → Option WorkConn
  | .dialed ok =>
      match s.pc with
      | .dialing => some { s with pc := if ok then .confirming else .failed }
      | _ => none
  | .confirmed ok =>
      match s.pc with
      | .confirming =>
          if !ok then some { s with pc := .dropped, tunnel := hangUp s.tunnel }
          else if target.proxyType = "udp" then some { s with pc := .bridgingUdp }
          else some { s with pc := .connecting }
      | _ => none
  | .connected ok =>
      match s.pc with
      | .connecting => some { s with pc := if ok then afterConnect target userAddr else .refusing }
      | _ => none
  | .refused queued =>
      match s.pc with
      | .refusing =>
          if queued && cap .client ≤ (s.tunnel.out .client).queue.length then none
          else some { s with pc := .dropped, tunnel := refuse connId s.tunnel queued }
      | _ => none
  | .headerWrote k =>
      match s.pc with
      | .injecting rest =>
          if k = 0 ∨ rest.length < k then none
          else some
            { s with
              pc := if k = rest.length then .bridging else .injecting (rest.drop k)
              header := s.header ++ rest.take k }
      | _ => none
  | .headerFailed =>
      match s.pc with
      -- 继续不注入: the bridge is entered with what has been written of the header
      | .injecting _ => some { s with pc := .bridging }
      | _ => none
  | .server event =>
      if s.pc.confirmed then
        (step cap connId s.tunnel (.server, event)).map fun t => { s with tunnel := t }
      else none
  | .client event =>
      match s.pc with
      | .bridging => (step cap connId s.tunnel (.client, event)).map fun t => { s with tunnel := t }
      | _ => none

/-! ## What a step can be -/

variable {cap connId target userAddr}

/-- The steps, with the conditions under which they are enabled. -/
inductive OpenMove (cap : Side → ℕ) (connId : UInt64) (target : WorkTarget) (userAddr : Option String)
    (s : WorkConn) : OpenLabel → WorkConn → Prop
  | dialed (ok : Bool) (hpc : s.pc = .dialing) :
      OpenMove cap connId target userAddr s (.dialed ok)
        { s with pc := if ok then .confirming else .failed }
  | confirmFailed (hpc : s.pc = .confirming) :
      OpenMove cap connId target userAddr s (.confirmed false)
        { s with pc := .dropped, tunnel := hangUp s.tunnel }
  | confirmedUdp (hpc : s.pc = .confirming) :
      OpenMove cap connId target userAddr s (.confirmed true) { s with pc := .bridgingUdp }
  | confirmed (hpc : s.pc = .confirming) :
      OpenMove cap connId target userAddr s (.confirmed true) { s with pc := .connecting }
  | connected (hpc : s.pc = .connecting) :
      OpenMove cap connId target userAddr s (.connected true)
        { s with pc := afterConnect target userAddr }
  | unreachable (hpc : s.pc = .connecting) :
      OpenMove cap connId target userAddr s (.connected false) { s with pc := .refusing }
  | refused (queued : Bool) (hpc : s.pc = .refusing)
      (hroom : queued = true → (s.tunnel.out .client).queue.length < cap .client) :
      OpenMove cap connId target userAddr s (.refused queued)
        { s with pc := .dropped, tunnel := refuse connId s.tunnel queued }
  | headerWrote {rest : Bytes} {k : ℕ} (hpc : s.pc = .injecting rest) (hpos : 0 < k)
      (hle : k ≤ rest.length) :
      OpenMove cap connId target userAddr s (.headerWrote k)
        { s with
          pc := if k = rest.length then .bridging else .injecting (rest.drop k)
          header := s.header ++ rest.take k }
  | headerFailed {rest : Bytes} (hpc : s.pc = .injecting rest) :
      OpenMove cap connId target userAddr s .headerFailed { s with pc := .bridging }
  | server {event : Event} {t : System} (hpc : s.pc.confirmed = true)
      (hstep : step cap connId s.tunnel (.server, event) = some t) :
      OpenMove cap connId target userAddr s (.server event) { s with tunnel := t }
  | client {event : Event} {t : System} (hpc : s.pc = .bridging)
      (hstep : step cap connId s.tunnel (.client, event) = some t) :
      OpenMove cap connId target userAddr s (.client event) { s with tunnel := t }

variable {s s' : WorkConn}

/-- Every step is one of the listed ones. -/
theorem move_of_openStep {label : OpenLabel}
    (h : openStep cap connId target userAddr s label = some s') :
    OpenMove cap connId target userAddr s label s' := by
  cases label with
  | dialed ok =>
      simp only [openStep] at h
      split at h <;> cases h
      case h_1.refl hpc => exact .dialed ok hpc
  | confirmed ok =>
      simp only [openStep] at h
      split at h
      · case h_1 hpc =>
        split_ifs at h with hok hudp
        · cases h
          obtain rfl : ok = false := by simpa using hok
          exact .confirmFailed hpc
        · cases h
          obtain rfl : ok = true := by simpa using hok
          exact .confirmedUdp hpc
        · cases h
          obtain rfl : ok = true := by simpa using hok
          exact .confirmed hpc
      · cases h
  | connected ok =>
      simp only [openStep] at h
      split at h <;> cases h
      case h_1.refl hpc =>
        cases ok with
        | true => exact .connected hpc
        | false => exact .unreachable hpc
  | refused queued =>
      simp only [openStep] at h
      split at h
      · case h_1 hpc =>
        split_ifs at h with hfull
        cases h
        refine .refused queued hpc ?_
        intro hqueued
        simpa [hqueued] using hfull
      · cases h
  | headerWrote k =>
      simp only [openStep] at h
      split at h
      · case h_1 rest hpc =>
        split at h
        · cases h
        · rename_i hk
          cases h
          push Not at hk
          exact .headerWrote hpc (Nat.pos_of_ne_zero hk.1) hk.2
      · cases h
  | headerFailed =>
      simp only [openStep] at h
      split at h <;> cases h
      case h_1.refl hpc => exact .headerFailed hpc
  | server event =>
      simp only [openStep] at h
      split_ifs at h with hpc
      obtain ⟨t, hstep, rfl⟩ := Option.map_eq_some_iff.mp h
      exact .server hpc hstep
  | client event =>
      simp only [openStep] at h
      split at h
      · case h_1 hpc =>
        obtain ⟨t, hstep, rfl⟩ := Option.map_eq_some_iff.mp h
        exact .client hpc hstep
      · cases h

/-! ## The tunnel of a work connection -/

/-- The steps of the two bridges that a step amounts to. -/
def tunnelSteps : OpenLabel → List (Side × Event)
  | .confirmed false => [(.client, .read .err)]
  | .refused queued =>
      [(.client, .read (.ok [])), (.client, if queued then .sent else .sendFailed false),
        (.client, .closed)]
  | .server event => [(.server, event)]
  | .client event => [(.client, event)]
  | _ => []

/-- Until its bridge is entered the client's end is at its start, and nothing has been written to the
local service but the header. -/
structure Untouched (s : WorkConn) : Prop where
  atStart : s.pc ≠ .bridging → s.pc ≠ .dropped → (s.tunnel.bridge .client).pc = .select
  unwritten : s.pc ≠ .bridging → (s.tunnel.out .server).put = []

/-- The client's bridge goes where it is put. -/
@[simp] lemma setClient_bridge_client (t : System) (pc : Pc) (d : Direction) :
    (setClient t pc d).bridge .client = (t.bridge .client).goto pc := by
  simp [setClient]

/-- The client's direction is replaced. -/
@[simp] lemma setClient_out_client (t : System) (pc : Pc) (d : Direction) :
    (setClient t pc d).out .client = d := by
  simp [setClient]

/-- The server's direction stays. -/
@[simp] lemma setClient_out_server (t : System) (pc : Pc) (d : Direction) :
    (setClient t pc d).out .server = t.out .server := by
  simp [setClient]

/-- The last replacement counts. -/
@[simp] lemma setClient_setClient (t : System) (pc pc' : Pc) (d d' : Direction) :
    setClient (setClient t pc d) pc' d' = setClient t pc' d' := by
  simp [setClient, Locals.goto]

/-- A step of the client's bridge that takes nothing off the tunnel and gives the service nothing. -/
lemma step_client {t : System} {event : Event} (pc : Pc)
    (hadmits : admits cap t .client event = true)
    (hcode : code .client (t.bridge .client) event = some ((t.bridge .client).goto pc))
    (hdrain : (t.out .server).drain (t.bridge .client).pc event = t.out .server) :
    step cap connId t (.client, event) =
      some (setClient t pc ((t.out .client).feed connId (t.bridge .client).pc event)) := by
  have hout : t.outAfter connId .client event = Function.update t.out .client
      ((t.out .client).feed connId (t.bridge .client).pc event) := by
    funext y
    cases y with
    | client => simp [System.outAfter]
    | server => simp [System.outAfter, hdrain]
  rw [step, if_pos hadmits, hcode, Option.map_some, hout, setClient]

/-- A client that hangs up does what a bridge does whose local stream fails. -/
lemma exec_hangUp {t : System} (hpc : (t.bridge .client).pc = .select) :
    exec (step cap connId) t (tunnelSteps (.confirmed false)) = some (hangUp t) := by
  have hcode : code .client (t.bridge .client) (.read .err) =
      some ((t.bridge .client).goto .ended) := by
    simp only [code, bridgeLocalTcpToFramed, bridge, hpc, onRead]
  rw [tunnelSteps, exec_cons, step_client _ rfl hcode rfl]
  rfl

/-- A client that refuses does what a bridge does whose local stream ends at once. -/
lemma exec_refuse {t : System} {queued : Bool} (hpc : (t.bridge .client).pc = .select)
    (hroom : queued = true → (t.out .client).queue.length < cap .client) :
    exec (step cap connId) t (tunnelSteps (.refused queued)) = some (refuse connId t queued) := by
  have hread : step cap connId t (.client, .read (.ok [])) =
      some (setClient t .sendingClose { t.out .client with eof := true }) := by
    have hcode : code .client (t.bridge .client) (.read (.ok [])) =
        some ((t.bridge .client).goto .sendingClose) := by
      simp only [code, bridgeLocalTcpToFramed, bridge, hpc, onRead]
    rw [step_client _ rfl hcode rfl]
    simp [Direction.feed]
  have hsent : step cap connId (setClient t .sendingClose { t.out .client with eof := true })
      (.client, if queued then .sent else .sendFailed false) =
        some (setClient t .closing
          { t.out .client with
            eof := true
            queue := (t.out .client).queue ++ if queued then [chunk connId []] else [] }) := by
    cases queued with
    | true =>
        rw [if_pos rfl, step_client .closing (by simpa [admits] using hroom rfl)
          (by simp [code, bridgeLocalTcpToFramed, bridge, Locals.goto]) rfl]
        simp [Direction.feed, Pc.outgoing]
    | false =>
        rw [if_neg (by simp), step_client .closing rfl
          (by simp [code, bridgeLocalTcpToFramed, bridge, Locals.goto]) rfl]
        simp [Direction.feed]
  rw [tunnelSteps, exec_cons, hread, Option.bind_some, exec_cons, hsent, Option.bind_some, exec_cons,
    step_client .ended rfl (by simp [code, bridgeLocalTcpToFramed, bridge, Locals.goto]) rfl]
  simp [Direction.feed, refuse]

/-- A step of the server's bridge leaves the client's and what the service has been sent. -/
lemma step_server {t t' : System} {event : Event} (h : step cap connId t (.server, event) = some t') :
    t'.bridge .client = t.bridge .client ∧ (t'.out .server).put = (t.out .server).put := by
  obtain ⟨-, -, hother, hfeed, -⟩ := step_eq_some h
  refine ⟨hother, ?_⟩
  rw [hfeed]
  unfold Direction.feed
  split <;> rfl

/-- Before the bridge is entered, every step leaves the client's end of the tunnel untouched. -/
lemma untouched_step (h : Untouched s) {label : OpenLabel}
    (hstep : openStep cap connId target userAddr s label = some s') : Untouched s' := by
  obtain ⟨hstart, hput⟩ := h
  cases move_of_openStep hstep with
  | dialed ok hpc => exact ⟨fun _ _ => hstart (by simp [hpc]) (by simp [hpc]), fun _ => hput (by simp [hpc])⟩
  | confirmFailed hpc =>
      refine ⟨fun _ hne => absurd rfl hne, fun _ => ?_⟩
      simpa [hangUp] using hput (by simp [hpc])
  | confirmedUdp hpc | confirmed hpc | unreachable hpc | connected hpc =>
      exact ⟨fun _ _ => hstart (by simp [hpc]) (by simp [hpc]), fun _ => hput (by simp [hpc])⟩
  | refused queued hpc hroom =>
      refine ⟨fun _ hne => absurd rfl hne, fun _ => ?_⟩
      simpa [refuse] using hput (by simp [hpc])
  | headerWrote hpc hpos hle =>
      exact ⟨fun _ _ => hstart (by simp [hpc]) (by simp [hpc]), fun _ => hput (by simp [hpc])⟩
  | headerFailed hpc =>
      exact ⟨fun _ _ => hstart (by simp [hpc]) (by simp [hpc]), fun _ => hput (by simp [hpc])⟩
  | server hpc htunnel =>
      obtain ⟨hbridge, hsame⟩ := step_server htunnel
      rw [← hbridge] at hstart
      rw [← hsame] at hput
      exact ⟨hstart, hput⟩
  | client hpc => exact ⟨fun hne => absurd hpc hne, fun hne => absurd hpc hne⟩

/-- At the start the tunnel is untouched. -/
lemma untouched_start : Untouched .start := ⟨fun _ _ => rfl, fun _ => rfl⟩

/-- The steps of a work connection are steps of its tunnel. -/
lemma openStep_simulates : Simulates (openStep cap connId target userAddr) (step cap connId) Untouched
    WorkConn.tunnel tunnelSteps where
  keeps := fun _ _ _ h hstep => untouched_step h hstep
  simulates := by
    rintro s label s' ⟨hstart, -⟩ hstep
    cases move_of_openStep hstep with
    | confirmFailed hpc => exact exec_hangUp (hstart (by simp [hpc]) (by simp [hpc]))
    | refused queued hpc hroom => exact exec_refuse (hstart (by simp [hpc]) (by simp [hpc])) hroom
    | server hpc htunnel => exact exec_cons_eq_some.mpr ⟨_, htunnel, rfl⟩
    | client hpc htunnel => exact exec_cons_eq_some.mpr ⟨_, htunnel, rfl⟩
    | _ => rfl

/-- Over any run, whatever fails in it: what the two bridges of a work connection have done is what
bridges do that are joined from the start, the client's with a local service that closes at once where
none was reached; so each side has been given a prefix of what the other side sent. -/
theorem work_connection_simulated (cap : Side → ℕ) (connId : UInt64) (target : WorkTarget)
    (userAddr : Option String) {labels : List OpenLabel} {s : WorkConn}
    (h : exec (openStep cap connId target userAddr) .start labels = some s) :
    exec (step cap connId) .start (labels.flatMap tunnelSteps) = some s.tunnel ∧
      ∀ x, (s.tunnel.out x).put <+: (s.tunnel.out x).got := by
  have hrun := exec_simulation openStep_simulates untouched_start h
  refine ⟨hrun, fun x => ?_⟩
  have hflow := flowFrom_of_exec hrun x
  exact hflow.put_prefix

/-- The rule of a local service on port 80 that wants to be told. -/
def sampleTarget : WorkTarget :=
  { localAddr := "127.0.0.1:80", proxyType := "tcp", proxyProtocol := some "v2" }

/-- The server reads two bytes of the user while the client fails to reach the service. -/
def sampleRefusal : List OpenLabel :=
  [.dialed true, .confirmed true, .server (.read (.ok [1, 2])), .connected false, .server .sent,
    .refused true, .server (.next (.message (chunk 7 []))), .server .shutDown]

/-- A refused connection, seen by the tunnel as one whose service closes at once. -/
theorem work_connection_simulated_refusal : ∃ s,
    exec (openStep (fun _ => 1) 7 sampleTarget none) .start sampleRefusal = some s ∧
      (s.tunnel.out .client).shut = true ∧
      exec (step (fun _ => 1) 7) .start (sampleRefusal.flatMap tunnelSteps) = some s.tunnel := by
  refine ⟨_, rfl, rfl, ?_⟩
  exact (@work_connection_simulated (fun _ => 1) 7 sampleTarget none sampleRefusal _ rfl).1

/-! ## What the local service is told -/

/-- The header that is to be written to the local service; none if it cannot be made. -/
def headerFor (target : WorkTarget) (userAddr : Option String) : Bytes :=
  match injectProxyProtocol userAddr (target.proxyProtocol.getD "") with
  | .ok header => header
  | .error _ => []

/-- The part of the header that has been written. -/
def HeaderAt (target : WorkTarget) (userAddr : Option String) (s : WorkConn) : Prop :=
  match s.pc with
  | .injecting rest => s.header ++ rest = headerFor target userAddr
  | .bridging => s.header <+: headerFor target userAddr
  | _ => s.header = []

/-- All of it. -/
def HeaderWhole (target : WorkTarget) (userAddr : Option String) (s : WorkConn) : Prop :=
  s.pc = .bridging → s.header = headerFor target userAddr

/-- No version and an unknown version are no header. -/
lemma afterConnect_cases (target : WorkTarget) (userAddr : Option String) :
    (afterConnect target userAddr = .bridging ∧ headerFor target userAddr = []) ∨
      ∃ header, afterConnect target userAddr = .injecting header ∧
        headerFor target userAddr = header := by
  unfold afterConnect headerFor
  by_cases hversion : target.proxyProtocol.getD "" = ""
  · simp [hversion, injectProxyProtocol]
  · simp only [if_neg hversion]
    cases injectProxyProtocol userAddr (target.proxyProtocol.getD "") with
    | error e => exact Or.inl ⟨rfl, rfl⟩
    | ok header => exact Or.inr ⟨header, rfl, rfl⟩

/-- Before the header is begun it agrees with every rule. -/
lemma headerAt_afterConnect (h : s.header = []) :
    HeaderAt target userAddr { s with pc := afterConnect target userAddr } ∧
      HeaderWhole target userAddr { s with pc := afterConnect target userAddr } := by
  unfold HeaderAt HeaderWhole
  rcases afterConnect_cases target userAddr with ⟨hpc, hnone⟩ | ⟨header, hpc, hsome⟩
  · simp [hpc, hnone, h]
  · simp [hpc, hsome, h]

/-- Part of the header is written. -/
lemma headerAt_wrote {rest : Bytes} {k : ℕ} (h : s.header ++ rest = headerFor target userAddr) :
    let s' : WorkConn :=
      { s with
        pc := if k = rest.length then .bridging else .injecting (rest.drop k)
        header := s.header ++ rest.take k }
    HeaderAt target userAddr s' ∧ HeaderWhole target userAddr s' := by
  intro s'
  by_cases hall : k = rest.length
  · have hpc : s'.pc = .bridging := if_pos hall
    have hheader : s'.header = headerFor target userAddr := by
      show s.header ++ rest.take k = _
      rw [← h, hall, List.take_length]
    rw [HeaderAt, hpc]
    exact ⟨hheader ▸ List.prefix_refl _, fun _ => hheader⟩
  · have hpc : s'.pc = .injecting (rest.drop k) := if_neg hall
    rw [HeaderAt, HeaderWhole, hpc]
    refine ⟨?_, nofun⟩
    rw [← h]
    show s.header ++ rest.take k ++ rest.drop k = _
    rw [List.append_assoc, List.take_append_drop]

/-- Every step writes the header in order. -/
lemma headerAt_step (h : HeaderAt target userAddr s) {label : OpenLabel}
    (hstep : openStep cap connId target userAddr s label = some s') :
    HeaderAt target userAddr s' := by
  cases move_of_openStep hstep with
  | dialed ok hpc =>
      rw [HeaderAt, hpc] at h
      cases ok <;> exact h
  | connected hpc =>
      rw [HeaderAt, hpc] at h
      exact (headerAt_afterConnect h).1
  | headerWrote hpc hpos hle =>
      rw [HeaderAt, hpc] at h
      exact (headerAt_wrote h).1
  | headerFailed hpc =>
      rw [HeaderAt, hpc] at h
      exact ⟨_, h⟩
  | server hpc htunnel | client hpc htunnel => exact h
  | confirmFailed hpc | confirmedUdp hpc | confirmed hpc | unreachable hpc | refused _ hpc _ =>
      rw [HeaderAt, hpc] at h
      exact h

/-- Only a failed write lets the bridge begin without the whole header. -/
lemma headerWhole_step (h : HeaderAt target userAddr s) (hwhole : HeaderWhole target userAddr s)
    {label : OpenLabel} (hlabel : label ≠ .headerFailed)
    (hstep : openStep cap connId target userAddr s label = some s') :
    HeaderWhole target userAddr s' := by
  cases move_of_openStep hstep with
  | dialed ok hpc => cases ok <;> exact nofun
  | connected hpc =>
      rw [HeaderAt, hpc] at h
      exact (headerAt_afterConnect h).2
  | headerWrote hpc hpos hle =>
      rw [HeaderAt, hpc] at h
      exact (headerAt_wrote h).2
  | headerFailed hpc => exact absurd rfl hlabel
  | server hpc htunnel | client hpc htunnel => exact hwhole
  | confirmFailed | confirmedUdp | confirmed | unreachable | refused => exact nofun

/-- The state of a work connection as its local service sees it. -/
structure AsSeen (target : WorkTarget) (userAddr : Option String) (s : WorkConn) : Prop where
  untouched : Untouched s
  headerAt : HeaderAt target userAddr s

/-- In every state of a run the service has been told a prefix of what it should be. -/
lemma asSeen_of_exec {labels : List OpenLabel}
    (h : exec (openStep cap connId target userAddr) .start labels = some s) :
    AsSeen target userAddr s :=
  exec_invariant (fun _ _ _ hseen hstep =>
    ⟨untouched_step hseen.untouched hstep, headerAt_step hseen.headerAt hstep⟩)
    ⟨untouched_start, rfl⟩ h

/-- Where writing the header never fails, all of it comes before the bytes of the user. -/
lemma headerWhole_of_exec {labels : List OpenLabel} (hlabels : ∀ label ∈ labels, label ≠ .headerFailed)
    (h : exec (openStep cap connId target userAddr) .start labels = some s) :
    HeaderWhole target userAddr s := by
  have hsteps : EachStep (openStep cap connId target userAddr) (fun _ label => label ≠ .headerFailed)
      .start labels := eachStep_of_forall_mem hlabels
  have hstart : HeaderAt target userAddr .start ∧ HeaderWhole target userAddr .start := ⟨rfl, nofun⟩
  refine (exec_invariant_of_eachStep (I := fun s => HeaderAt target userAddr s ∧
    HeaderWhole target userAddr s) ?_ hstart hsteps h).2
  rintro s label s' ⟨hat, hwhole⟩ hlabel hstep
  exact ⟨headerAt_step hat hstep, headerWhole_step hat hwhole hlabel hstep⟩

/-- What is written of the header is a prefix of it. -/
lemma HeaderAt.header_le (h : HeaderAt target userAddr s) : s.header <+: headerFor target userAddr := by
  unfold HeaderAt at h
  split at h
  · exact ⟨_, h⟩
  · exact h
  · rw [h]
    exact List.nil_prefix

/-- What is read of a header of either version, whatever follows it. -/
lemma exists_told (a : SocketAddr) :
    (∃ header t, buildProxyProtocolV1 (some (String.ofList a.text)) = .ok header ∧
      t.source = some (a.ip, a.port) ∧ ∀ p, parseV1 (header ++ p) = some (t, p)) ∧
    ∃ header t, buildProxyProtocolV2 (some (String.ofList a.text)) = .ok header ∧
      t.source = some (a.ip, a.port) ∧ ∀ p, parseV2 (header ++ p) = some (t, p) := by
  have hread : SocketAddr.ofText? (String.ofList a.text).toList = some a.withoutFlowinfo := by
    rw [String.toList_ofList]
    exact a.ofText?_text
  have hsource : ∀ dst, (toldOf dst a.withoutFlowinfo).source = some (a.ip, a.port) := by
    intro dst
    rw [source_toldOf]
    cases a <;> rfl
  obtain ⟨header1, hbuild1, -, hparse1⟩ := exists_headerV1 hread
  obtain ⟨header2, hbuild2, -, hparse2⟩ := exists_headerV2 hread
  exact ⟨⟨header1, _, hbuild1, hsource _, hparse1⟩, header2, _, hbuild2, hsource _, hparse2⟩

/-- The local service is told of the user before it is given the user's data: what it has been sent is
the header, as far as it has been written, and then a prefix of what the server read.  If the write of
the header does not fail, the whole header comes first, and a service that reads it finds the user's
address, and exactly those data behind it. -/
theorem service_is_told (cap : Side → ℕ) (connId : UInt64) (target : WorkTarget)
    (userAddr : Option String) {labels : List OpenLabel} {s : WorkConn}
    (h : exec (openStep cap connId target userAddr) .start labels = some s) :
    (s.header <+: headerFor target userAddr ∧
        ((s.tunnel.out .server).put ≠ [] → s.pc = .bridging)) ∧
      ((∀ label ∈ labels, label ≠ .headerFailed) →
        s.received <+: headerFor target userAddr ++ (s.tunnel.out .server).got ∧
        (s.pc = .bridging → ∀ a : SocketAddr, userAddr = some (String.ofList a.text) →
          (target.proxyProtocol = some "v1" → ∃ t, t.source = some (a.ip, a.port) ∧
            parseV1 s.received = some (t, (s.tunnel.out .server).put)) ∧
          (target.proxyProtocol = some "v2" → ∃ t, t.source = some (a.ip, a.port) ∧
            parseV2 s.received = some (t, (s.tunnel.out .server).put)))) := by
  obtain ⟨huntouched, hat⟩ := asSeen_of_exec h
  have hopen : (s.tunnel.out .server).put ≠ [] → s.pc = .bridging := fun hput =>
    by_contra fun hpc => hput (huntouched.unwritten hpc)
  refine ⟨⟨hat.header_le, hopen⟩, ?_⟩
  intro hlabels
  have hwhole := headerWhole_of_exec hlabels h
  have hflow := flowFrom_of_exec (exec_simulation openStep_simulates untouched_start h) .server
  have hput : (s.tunnel.out .server).put <+: (s.tunnel.out .server).got := hflow.put_prefix
  constructor
  · by_cases hpc : s.pc = .bridging
    · rw [WorkConn.received, hwhole hpc]
      exact (List.prefix_append_right_inj _).mpr hput
    · rw [WorkConn.received, huntouched.unwritten hpc, List.append_nil]
      exact hat.header_le.trans (List.prefix_append _ _)
  · rintro hpc a rfl
    obtain ⟨⟨header1, t1, hbuild1, hsource1, hparse1⟩, header2, t2, hbuild2, hsource2, hparse2⟩ :=
      exists_told a
    rw [WorkConn.received, hwhole hpc, headerFor]
    constructor
    · intro hversion
      have hheader : injectProxyProtocol (some (String.ofList a.text))
          (target.proxyProtocol.getD "") = .ok header1 := by
        rw [hversion, ← hbuild1]
        rfl
      rw [hheader]
      exact ⟨t1, hsource1, hparse1 _⟩
    · intro hversion
      have hheader : injectProxyProtocol (some (String.ofList a.text))
          (target.proxyProtocol.getD "") = .ok header2 := by
        rw [hversion, ← hbuild2]
        rfl
      rw [hheader]
      exact ⟨t2, hsource2, hparse2 _⟩

/-- 1.2.3.4:5678 -/
def sampleUser : SocketAddr := .v4 ⟨[1, 2, 3, 4], rfl⟩ 5678

/-- The user's first two bytes are read while the header is written in two parts. -/
def sampleInjection : List OpenLabel :=
  [.dialed true, .confirmed true, .connected true, .headerWrote 20, .server (.read (.ok [1, 2])),
    .headerWrote 8, .server .sent, .client (.next (.message (chunk 7 [1, 2]))), .client (.wrote 2)]

/-- The service finds the address of the user in front of its bytes. -/
theorem service_is_told_sample : ∃ s t,
    exec (openStep (fun _ => 1) 7 sampleTarget (some (String.ofList sampleUser.text))) .start
      sampleInjection = some s ∧
    t.source = some (sampleUser.ip, sampleUser.port) ∧ parseV2 s.received = some (t, [1, 2]) := by
  obtain ⟨s, hs, hpc, hput⟩ : ∃ s,
      exec (openStep (fun _ => 1) 7 sampleTarget (some (String.ofList sampleUser.text))) .start
        sampleInjection = some s ∧ s.pc = .bridging ∧ (s.tunnel.out .server).put = [1, 2] :=
    ⟨_, rfl, rfl, rfl⟩
  obtain ⟨-, htold⟩ := @service_is_told (fun _ => 1) 7 sampleTarget _ sampleInjection s hs
  obtain ⟨t, hsource, hparse⟩ := ((htold (by decide)).2 hpc sampleUser rfl).2 rfl
  rw [hput] at hparse
  exact ⟨s, t, hs, hsource, hparse⟩

end RustProxy.Client
