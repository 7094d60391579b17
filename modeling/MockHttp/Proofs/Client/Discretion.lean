import MockHttp.Proofs.Client.Stages
import MockHttp.Proofs.Server.Discretion

/-!
# What the log keeps to itself

With payloads switched off, the log does not depend on what requests and responses carry. That is
said of two runs. Two sessions are taken through commands of the same form, and at every stage of
every request they agree on all but the identifier of the request and what is carried: on the
request before and after the transforms, on what the handler wrote apart from the body, on whether a
body announced as JSON can be read, on what the driver returned and on what was delivered. Then they
log the same events.

What callers hand over as a function, be it a handler, a transform or a driver, may differ between
the two runs. It is seen only by what it does at the stages, and what it logs is its own affair.

Results:
1. `log_exchange`: what an exchange logs.
2. `exchange_alike`: none of it is carried.
3. `perform_alike`: one command keeps sessions alike and logs the same in both.
4. `run_alike`: so do whole runs.
5. `log_without_payloads`: runs from a fresh session that look the same are logged in the same way.
-/

namespace MockHttp

open Http Middleware

/-! ## Clients that look alike -/

def Endpoint.isServer : Endpoint → Bool
  | server => true
  | custom _ => false

def Middleware.Registration.observer? : Registration → Option Observer
  | observer o => some o
  | _ => none

/-! ### What observers and clients log -/

theorem log_before (request : Request) (o : Observer) :
    (Observer.before request.veiled o).log = (Observer.before request o).log := by
  cases o with
  | tracing => simp [Observer.before, Log.Event.anonymous, Request.veiled, Step.ownEvent?]
  | _ => rfl

theorem log_after (request : Request) (outcome : Outcome) (o : Observer) :
    (Observer.after request.veiled (veiled outcome) o).log =
      (Observer.after request outcome o).log := by
  cases o with
  | tracing =>
    cases outcome <;>
      simp [Observer.after, Log.Event.anonymous, Step.ownEvent?, veiled, Response.veiled]
  | _ => cases outcome <;> rfl

theorem log_tellAll {tell tell' : Observer → Traced Step Unit}
    (htell : ∀ o, (tell o).log = (tell' o).log) (observers : List Observer) :
    (Observer.tellAll tell observers).log = (Observer.tellAll tell' observers).log := by
  induction observers with
  | nil => rfl
  | cons o rest ih => simp only [Observer.tellAll, Traced.log_bind, htell, ih]

/-- Transforms log nothing. -/
theorem log_runAll {α : Type} {step : String → α → Step}
    (hstep : ∀ name a, (step name a).ownEvent? = none) (entries : List (String × Transform α))
    (a : α) : (runAll step entries a).log = [] := by
  induction entries generalizing a with
  | nil => rfl
  | cons entry rest ih => simp [runAll, hstep, ih]

namespace Client

theorem log_transformOutcome (c : Client) (outcome : Outcome) :
    (c.transformOutcome outcome).log = [] := by
  have hrun (response : Response) :
      (c.responseChain.run .transformResponse response).log = [] := log_runAll (fun _ _ => rfl) _ _
  cases outcome <;> simp [transformOutcome, hrun]

section Discreet

variable {c d : Client} (hc : c.config.logPayloads = false) (hd : d.config.logPayloads = false)
include hc hd

theorem log_logRequest (request : Request) :
    (c.logRequest request).log = (d.logRequest request.veiled).log := by
  simp [logRequest, hc, hd, Request.veiled]

theorem log_logOutcome (request : Request) (outcome : Outcome) :
    (c.logOutcome request outcome).log = (d.logOutcome request.veiled (veiled outcome)).log := by
  cases outcome <;> simp [logOutcome, hc, hd, veiled, Response.veiled]

end Discreet

/-- What an exchange logs: the observers are told about the request that is sent, the client reports
it, the driver answers, and the observers and the client report the outcome that is delivered. -/
theorem log_exchange (c : Client) (service : Service) (given : Request) :
    let sent := c.sent given
    let delivered := c.delivered (service sent).value.2
    (c.exchange service given).log =
      (Observer.tellAll (Observer.before sent) c.observers).log ++ (c.logRequest sent).log ++
        (service sent).log ++ (Observer.tellAll (Observer.after sent delivered) c.observers).log ++
        (c.logOutcome sent delivered).log := by
  have hsent : (c.requestChain.run .transformRequest (c.entering given)).value =
      (c.sent given, registered c.requestChain.entries (c.entering given)) :=
    (runAll_spec .transformRequest (fun _ _ => rfl) _ _).2
  have hdelivered := (c.transformOutcome_spec (service (c.sent given)).value.2).2
  have hrun : (c.requestChain.run .transformRequest (c.entering given)).log = [] :=
    log_runAll (fun _ _ => rfl) _ _
  unfold exchange
  rw [fillIn_eq]
  simp [hsent, hdelivered, hrun, log_transformOutcome, Step.ownEvent?]

/-- The clients keep what is carried out of the log, have the same observers, and both send to the
server, both to something else, or both to nothing. -/
structure Alike (c d : Client) : Prop where
  discreet : c.config.logPayloads = false ∧ d.config.logPayloads = false
  endpoint : c.endpoint.map Endpoint.isServer = d.endpoint.map Endpoint.isServer
  observers : c.observers = d.observers

/-- An exchange logs what is seen of the request and of the outcome, and what the driver logs. -/
theorem exchange_alike {c d : Client} (h : c.Alike d) {service service' : Service}
    {given given' : Request} (hsent : (c.sent given).veiled = (d.sent given').veiled)
    (hservice : (service (c.sent given)).log = (service' (d.sent given')).log)
    (hdelivered : veiled (c.delivered (service (c.sent given)).value.2) =
      veiled (d.delivered (service' (d.sent given')).value.2)) :
    (c.exchange service given).log = (d.exchange service' given').log := by
  obtain ⟨hc, hd⟩ := h.discreet
  rw [log_exchange, log_exchange, h.observers, hservice]
  -- what remains is said of any two requests and outcomes that look the same
  generalize c.delivered (service (c.sent given)).value.2 = delivered at hdelivered ⊢
  generalize d.delivered (service' (d.sent given')).value.2 = delivered' at hdelivered ⊢
  generalize c.sent given = sent at hsent ⊢
  generalize d.sent given' = sent' at hsent ⊢
  have hbefore (o : Observer) : (Observer.before sent o).log = (Observer.before sent' o).log := by
    rw [← log_before, hsent, log_before]
  have hafter (o : Observer) :
      (Observer.after sent delivered o).log = (Observer.after sent' delivered' o).log := by
    rw [← log_after, hsent, hdelivered, log_after]
  have hrequest : (c.logRequest sent).log = (d.logRequest sent').log := by
    rw [log_logRequest hc hd, hsent, ← log_logRequest hd hd]
  have houtcome : (c.logOutcome sent delivered).log = (d.logOutcome sent' delivered').log := by
    rw [log_logOutcome hc hd, hsent, hdelivered, ← log_logOutcome hd hd]
  rw [log_tellAll hbefore, log_tellAll hafter, hrequest, houtcome]

/-- What registrations leave alone, and which observers there are after them. -/
theorem registerAll_spec (c : Client) (made : List Registration) :
    (c.registerAll made).config = c.config ∧ (c.registerAll made).endpoint = c.endpoint ∧
      (c.registerAll made).observers = c.observers ++ made.filterMap Registration.observer? := by
  induction made generalizing c with
  | nil => exact ⟨rfl, rfl, (List.append_nil _).symm⟩
  | cons r made ih =>
    obtain ⟨hconfig, hendpoint, hobservers⟩ := ih (c.register r)
    refine ⟨hconfig.trans ?_, hendpoint.trans ?_, hobservers.trans ?_⟩
    · cases r <;> rfl
    · cases r <;> rfl
    · cases r with
      | observer o => simp [register, observe, Registration.observer?]
      | _ => rfl

/-- Of what is registered, the log depends on observers only. -/
theorem registerAll_alike {c d : Client} (h : c.Alike d) {made made' : List Registration}
    (hmade : made.filterMap Registration.observer? = made'.filterMap Registration.observer?) :
    (c.registerAll made).Alike (d.registerAll made') := by
  obtain ⟨hconfig, hendpoint, hobservers⟩ := registerAll_spec c made
  obtain ⟨hconfig', hendpoint', hobservers'⟩ := registerAll_spec d made'
  constructor
  · rw [hconfig, hconfig']
    exact h.discreet
  · rw [hendpoint, hendpoint', h.endpoint]
  · rw [hobservers, hobservers', h.observers, hmade]

end Client

/-! ## Sessions -/

namespace Session

/-- What is done with a session. -/
inductive Command where
  | addRoute (path : String) (method : Method) (handler : Server.Handler)
  | addFixtures (fixtures : List Server.Fixture)
  | setFallback (driver : Option Driver)
  | setLatency (latency : Server.Latency)
  | setEndpoint (endpoint : Endpoint)
  /-- A transform is registered or removed, or an observer is registered. -/
  | register (r : Registration)
  /-- A request goes to the server at once. -/
  | dispatch (given : Request)
  /-- A request is sent by the client. -/
  | send (endpoint : Option Endpoint) (given : Request)

def perform (s : Session) : Command → Traced Step Session
  | .addRoute path method handler => do
    let added ← (s.server.addRoute path method handler).mapSteps .log
    return { s with server := added.1 }
  | .addFixtures fixtures => do
    let added ← (s.server.addFixtures fixtures).mapSteps .log
    return { s with server := added.1 }
  | .setFallback driver => return s.setFallback driver
  | .setLatency latency => return { s with server := { s.server with latency := latency } }
  | .setEndpoint endpoint => return s.setEndpoint endpoint
  | .register r => return s.register r
  | .dispatch given => do
    let dispatched ← s.dispatch given
    return dispatched.1
  | .send endpoint given => do
    let sent ← s.send endpoint given
    return sent.1

def run (s : Session) : List Command → Traced Step Session
  | [] => return s
  | command :: rest => do
    let s ← s.perform command
    s.run rest

/-- What is seen at the stages that a command comes to. -/
structure Passage where
  /-- The request after the request transforms. -/
  sent : Option Request := none
  /-- What the handler wrote that answers. -/
  written : Option Server.Writing := none
  /-- The outcome of the driver. -/
  returned : Option Outcome := none
  /-- The outcome after the response transforms. -/
  delivered : Option Outcome := none
  /-- The observers that transforms registered meanwhile. -/
  observers : List Observer := []

/-- What is seen at the stages that a command comes to in a session. -/
def passage (s : Session) : Command → Passage
  | .dispatch given =>
    { written := s.server.writing? given, returned := some (veiled (s.dispatch given).value.2) }
  | .send endpoint given =>
    match endpoint.or s.client.endpoint with
    | none => {}
    | some chosen =>
      let sent := s.client.sent given
      let returned := (chosen.service s.server sent).value.2
      { sent := some sent.veiled
        written := if chosen.isServer then s.server.writing? sent else none
        returned := some (veiled returned)
        delivered := some (veiled (s.client.delivered returned))
        observers := (s.client.made given returned).filterMap Registration.observer? }
  | _ => {}

/-- What is seen at the stages of some commands. -/
def passages (s : Session) : List Command → List Passage
  | [] => []
  | command :: rest => s.passage command :: (s.perform command).value.passages rest

/-- The commands are of the same form. They may hand over different functions, and requests that
look the same. -/
inductive Command.Alike : Command → Command → Prop
  | addRoute (path : String) (method : Method) (f g : Server.Handler) :
    Alike (.addRoute path method f) (.addRoute path method g)
  | addFixtures {fs gs : List Server.Fixture} :
    fs.map Server.Fixture.key = gs.map Server.Fixture.key →
    Alike (.addFixtures fs) (.addFixtures gs)
  | setFallback {d d' : Option Driver} :
    d.isSome = d'.isSome → Alike (.setFallback d) (.setFallback d')
  | setLatency (l l' : Server.Latency) : Alike (.setLatency l) (.setLatency l')
  | setEndpoint {e e' : Endpoint} :
    e.isServer = e'.isServer → Alike (.setEndpoint e) (.setEndpoint e')
  | register {r r' : Registration} :
    r.observer? = r'.observer? → Alike (.register r) (.register r')
  | dispatch {given given' : Request} :
    given.veiled = given'.veiled → Alike (.dispatch given) (.dispatch given')
  | send {e e' : Option Endpoint} {given given' : Request} :
    e.map Endpoint.isServer = e'.map Endpoint.isServer → given.veiled = given'.veiled →
    Alike (.send e given) (.send e' given')

/-- The sessions look alike on both sides. -/
structure Alike (s t : Session) : Prop where
  server : s.server.Alike t.server
  client : s.client.Alike t.client

section Send

variable {s : Session} {endpoint : Option Endpoint} (given : Request)

theorem log_perform_send : (s.perform (.send endpoint given)).log =
    (s.client.send s.server (endpoint.or s.client.endpoint) given).log := by
  rw [perform, Traced.log_bind]
  exact List.append_nil _

/-- A request that there is nothing to send to is reported, and that is all. -/
theorem perform_send_of_none (h : endpoint.or s.client.endpoint = none) :
    (s.perform (.send endpoint given)).log =
        [⟨.error, .client, "No HTTP driver configured", [("url", .text given.url)]⟩] ∧
      (s.perform (.send endpoint given)).value.server = s.server ∧
      (s.perform (.send endpoint given)).value.client = s.client := by
  refine ⟨?_, ?_⟩
  · rw [log_perform_send, h, Client.send]
    simp [Log.Event.anonymous, Server.idField]
  · rw [perform, Session.send, h]
    exact ⟨rfl, rfl⟩

/-- A request that is sent to an endpoint is logged as its exchange is. -/
theorem perform_send_of_some {chosen : Endpoint} (h : endpoint.or s.client.endpoint = some chosen) :
    (s.perform (.send endpoint given)).log =
        (s.client.exchange (chosen.service s.server) given).log ∧
      (s.perform (.send endpoint given)).value.server = s.server ∧
      (s.perform (.send endpoint given)).value.client = s.client.registerAll
        (s.client.made given (chosen.service s.server (s.client.sent given)).value.2) := by
  obtain ⟨-, hserver, hclient, -⟩ := Client.send_of_endpoint h given
  rw [(s.client.exchange_spec _ given).2] at hserver hclient
  refine ⟨?_, hserver.trans (chosen.server_service s.server _), hclient⟩
  rw [log_perform_send, h, Client.send, Traced.log_bind]
  exact List.append_nil _

end Send

/-- The server logs what is seen of a request and of what the handler wrote; what answers in its
place keeps a log of its own. -/
theorem service_alike {s t : Server} (h : s.Alike t) {chosen chosen' : Endpoint}
    (hsame : chosen'.isServer = chosen.isServer) {sent sent' : Request}
    (hsent : sent.veiled = sent'.veiled)
    (hwritten : (if chosen.isServer then s.writing? sent else none) =
      if chosen'.isServer then t.writing? sent' else none) :
    (chosen.service s sent).log = (chosen'.service t sent').log := by
  cases chosen with
  | server =>
    cases chosen' with
    | server => exact Server.dispatch_alike h hsent hwritten
    | custom driver' => exact nomatch hsame
  | custom driver =>
    cases chosen' with
    | server => exact nomatch hsame
    | custom driver' => simp [Endpoint.service]

/-- Sending requests that look the same keeps sessions alike, and logs the same in both. -/
theorem perform_send_alike {s t : Session} (h : s.Alike t) {e e' : Option Endpoint}
    {given given' : Request} (hendpoint : e.map Endpoint.isServer = e'.map Endpoint.isServer)
    (hgiven : given.veiled = given'.veiled)
    (hpassage : s.passage (.send e given) = t.passage (.send e' given')) :
    (s.perform (.send e given)).log = (t.perform (.send e' given')).log ∧
      (s.perform (.send e given)).value.Alike (t.perform (.send e' given')).value := by
  have hchosen : (e.or s.client.endpoint).map Endpoint.isServer =
      (e'.or t.client.endpoint).map Endpoint.isServer := by
    rw [Option.map_or, Option.map_or, hendpoint, h.client.endpoint]
  -- both requests have somewhere to go, or neither has
  cases hs : e.or s.client.endpoint with
  | none =>
    rw [hs] at hchosen
    have ht : e'.or t.client.endpoint = none := Option.map_eq_none_iff.mp hchosen.symm
    obtain ⟨hlog, hserver, hclient⟩ := perform_send_of_none given hs
    obtain ⟨hlog', hserver', hclient'⟩ := perform_send_of_none given' ht
    refine ⟨?_, ?_, ?_⟩
    · rw [hlog, hlog', (Request.seen hgiven).1]
    · rw [hserver, hserver']
      exact h.server
    · rw [hclient, hclient']
      exact h.client
  | some chosen =>
    rw [hs] at hchosen
    obtain ⟨chosen', ht, hsame⟩ := Option.map_eq_some_iff.mp hchosen.symm
    obtain ⟨hlog, hserver, hclient⟩ := perform_send_of_some given hs
    obtain ⟨hlog', hserver', hclient'⟩ := perform_send_of_some given' ht
    rw [passage, passage, hs, ht] at hpassage
    obtain ⟨hsent, hwritten, -, hdelivered, hobservers⟩ := Passage.mk.inj hpassage
    have hservice := service_alike h.server hsame (Option.some_inj.mp hsent) hwritten
    refine ⟨?_, ?_, ?_⟩
    · rw [hlog, hlog']
      exact Client.exchange_alike h.client (Option.some_inj.mp hsent) hservice
        (Option.some_inj.mp hdelivered)
    · rw [hserver, hserver']
      exact h.server
    · rw [hclient, hclient']
      exact Client.registerAll_alike h.client hobservers

/-- One command keeps sessions alike, and logs the same in both. -/
theorem perform_alike {s t : Session} (h : s.Alike t) {a b : Command} (hab : a.Alike b)
    (hpassage : s.passage a = t.passage b) :
    (s.perform a).log = (t.perform b).log ∧ (s.perform a).value.Alike (t.perform b).value := by
  cases hab with
  | addRoute path method f g =>
    obtain ⟨hsteps, halike, -⟩ := Server.addRoute_alike h.server path method f g
    refine ⟨?_, halike, h.client⟩
    simp only [perform, Traced.log_bind, Traced.log_mapSteps, hsteps]
    rfl
  | addFixtures hkeys =>
    obtain ⟨hsteps, halike⟩ := Server.addFixtures_alike h.server hkeys
    refine ⟨?_, halike, h.client⟩
    simp only [perform, Traced.log_bind, Traced.log_mapSteps, hsteps]
    rfl
  | setFallback hsome => exact ⟨rfl, { h.server with fallback := hsome }, h.client⟩
  | setLatency l l' => exact ⟨rfl, { h.server with }, h.client⟩
  | setEndpoint hserver =>
    exact ⟨rfl, h.server, { h.client with endpoint := congrArg some hserver }⟩
  | @register r r' hobserver =>
    have hmade : [r].filterMap Registration.observer? = [r'].filterMap Registration.observer? := by
      simp [List.filterMap_cons, hobserver]
    exact ⟨rfl, h.server, Client.registerAll_alike h.client hmade⟩
  | @dispatch given given' hgiven =>
    have hdispatch : (s.server.dispatch given).log = (t.server.dispatch given').log :=
      Server.dispatch_alike h.server hgiven (congrArg Passage.written hpassage)
    refine ⟨?_, ?_, h.client⟩
    · simp only [perform, Session.dispatch, Traced.log_bind, Traced.log_pure, hdispatch]
    · have hserver := h.server
      rw [← s.server.server_dispatch given, ← t.server.server_dispatch given'] at hserver
      exact hserver
  | send hendpoint hgiven => exact perform_send_alike h hendpoint hgiven hpassage

/-- Runs through commands of the same form log the same. -/
theorem run_alike {s t : Session} (h : s.Alike t) {first second : List Command}
    (hcommands : List.Forall₂ Command.Alike first second)
    (hpassages : s.passages first = t.passages second) :
    (s.run first).log = (t.run second).log := by
  induction hcommands generalizing s t with
  | nil => rfl
  | cons hab _ ih =>
    obtain ⟨hpassage, hrest⟩ := List.cons.inj hpassages
    obtain ⟨hlog, halike⟩ := perform_alike h hab hpassage
    rw [run, run, Traced.log_bind, Traced.log_bind, hlog, ih halike hrest]

/-- A session of a server and a client that are configured each for itself. -/
def start (server client : Config) : Session where
  server := .new server
  client := { config := client }

/-- With payloads switched off at the server and at the client, the log does not tell what requests
and responses carry. Take two runs of the same form from a fresh session: routes and fixtures are
registered for the same paths and methods, transforms, observers, endpoints and a fallback are set,
and requests are dispatched and sent that differ in their identifiers and payloads at most. Suppose
that the runs agree on what else is seen at every stage: the request after the request transforms;
the status, the headers and the ending of the handler, with its message, and whether the body stands
for anything if it is announced as JSON; what the driver returns and what is delivered, but for what
it carries; and which observers the transforms registered meanwhile, since they report what follows.
Then both log the same events with the same fields, in the same order, identifiers of requests
aside. Waiting is no event, and the event about a body that cannot be read does not quote it. -/
theorem log_without_payloads {server client : Config} (hserver : server.logPayloads = false)
    (hclient : client.logPayloads = false) {first second : List Command}
    (hcommands : List.Forall₂ Command.Alike first second)
    (hpassages : (start server client).passages first = (start server client).passages second) :
    ((start server client).run first).log = ((start server client).run second).log := by
  have hstart : (start server client).Alike (start server client) :=
    ⟨⟨⟨hserver, hserver⟩, rfl, rfl, rfl, rfl, .nil, rfl⟩, ⟨⟨hclient, hclient⟩, rfl, rfl⟩⟩
  exact run_alike hstart hcommands hpassages

end Session

/-! ### Two runs with different secrets -/

namespace Server

/-- The handler of the only route answers a request to get `/a`. -/
theorem answered_sole (handler : Handler) (given : Request) (hbase : given.baseUrl = none)
    (hurl : given.url = "/a") (hmethod : given.method = some .get) :
    ∃ request, (soleServer handler).writing? given = some (.of (handler request {})) ∧
      ((soleServer handler).dispatch given).value.2 =
        (conclude request (handler request {}).1 (handler request {}).2).value := by
  have hserves := (reached_sole handler).serves
  have hframed := framed_eq hserves.baseUrl hserves.method given
  have hasked : (seenBy {} given).url = "/a" := by
    show urlOf {} given = "/a"
    rw [urlOf, hbase, hurl]
    rfl
  obtain ⟨route, hroute, hchoose⟩ := chosen_sole handler hasked
  have hhandler : route.handler = handler := hroute.handler
  have hselection : (soleServer handler).selection given =
      .route 0 route ⟨"/a", "/a", true, []⟩ := by
    rw [selection, hframed, hmethod]
    exact hchoose
  obtain ⟨-, hvalue⟩ : (soleServer handler).Follows given (seenBy {} given)
      (.route 0 route ⟨"/a", "/a", true, []⟩) :=
    dispatch_follows hserves given (by rw [hmethod]; exact hchoose)
  refine ⟨{ seenBy {} given with routeMatch := some ⟨"/a", "/a", true, []⟩ }, ?_, ?_⟩
  · rw [writing?, hselection, hframed, ← hhandler]
  · rw [hvalue, hhandler]

end Server

namespace Session

/-- A handler that writes what the request carries. -/
def tell : Server.Handler := fun request d => (d.write request.body.compact, .finished)

def telling (secret : Json) : Request :=
  { Request.new (.ofNat 0) "/a" with method := some .get, payload := some secret }

/-- A client sends it under the eyes of the observer for tracing. -/
def tellingRun (secret : Json) : List Command :=
  [.addRoute "/a" .get tell, .setEndpoint .server, .register (.observer .tracing),
    .send none (telling secret)]

/-- What is seen of it. -/
theorem passages_telling (secret : Json) :
    (start {} {}).passages (tellingRun secret) = [{}, {}, {}, {
      sent := some { (telling .null).veiled with
        timeoutSecs := some 3600
        withCredentials := some false }
      written := some ⟨200, .empty, true, .finished⟩
      returned := some (.ok (.new 200 .empty .null))
      delivered := some (.ok (.new 200 .empty .null)) }] := by
  let asked : Request := { telling secret with
    timeoutSecs := some 3600
    withCredentials := some false }
  let client : Client := { config := {}, endpoint := some .server, observers := [.tracing] }
  obtain ⟨request, hwriting, hvalue⟩ := Server.answered_sole tell asked rfl rfl rfl
  have hwritten : (Server.soleServer tell).writing? asked = some ⟨200, .empty, true, .finished⟩ :=
    hwriting
  have hreturned : ((Server.soleServer tell).dispatch asked).value.2 =
      .ok (.new 200 .empty (.string ("" ++ request.body.compact))) := hvalue
  have hlast : (start {} {}).passages (tellingRun secret) = [{}, {}, {}, {
      sent := some asked.veiled
      written := (Server.soleServer tell).writing? asked
      returned := some (veiled ((Server.soleServer tell).dispatch asked).value.2)
      delivered := some (veiled (client.delivered
        ((Server.soleServer tell).dispatch asked).value.2)) }] := rfl
  rw [hlast, hwritten, hreturned]
  rfl

/-- Whatever is told, nothing of it is seen in the log. -/
theorem log_without_payloads_telling :
    (start {} {}).passages (tellingRun (.string "Ann")) =
        (start {} {}).passages (tellingRun (.string "Bob")) ∧
      ((start {} {}).run (tellingRun (.string "Ann"))).log =
        ((start {} {}).run (tellingRun (.string "Bob"))).log := by
  have hpassages := (passages_telling (.string "Ann")).trans (passages_telling (.string "Bob")).symm
  exact ⟨hpassages, log_without_payloads rfl rfl (.cons (.addRoute ..) (.cons (.setEndpoint rfl)
    (.cons (.register rfl) (.cons (.send rfl rfl) .nil)))) hpassages⟩

end Session

end MockHttp
