import MockHttp.Proofs.Server.Outcomes
import MockHttp.Proofs.Server.Scan
import MockHttp.Server.Fixture

/-!
# What a server logs

A server with payloads switched off logs nothing of what requests and responses carry. That is said
of two servers that differ in no more than the functions handed over to them and in their latency,
and of two requests and two handlers that look the same: the requests differ in their identifiers
and payloads at most, and the handlers write the same but for a body that can be read in both cases
or in none.

Results:
1. `choose_alike`: a scan looks at routes and urls only.
2. `conclude_alike`: an event about a handler tells how it ended, or that the body cannot be read.
3. `log_answer`: what an answer logs.
4. `dispatch_alike`: a dispatch logs what is seen of the request and of what the handler wrote.
5. `addRoute_alike`, `addFixtures_alike`: a registration logs nothing of the handler.
-/

namespace MockHttp

open Http Template

/-! ## Logs -/

/-- The event without the identifier of the request that it is about. -/
def Log.Event.anonymous (e : Log.Event) : Log.Event :=
  { e with fields := e.fields.filter (·.1 != "request_id") }

/-- The events that are logged, without identifiers, and without those of drivers that were handed
over. -/
def Traced.log {α : Type} (a : Traced Step α) : List Log.Event :=
  (a.steps.filterMap Step.ownEvent?).map Log.Event.anonymous

namespace Traced

variable {α β : Type}

@[simp] theorem log_pure (a : α) : (Pure.pure a : Traced Step α).log = [] := rfl

@[simp] theorem log_bind (a : Traced Step α) (f : α → Traced Step β) :
    (a >>= f).log = a.log ++ (f a.value).log := by
  simp only [log, steps_bind, List.filterMap_append, List.map_append]

@[simp] theorem log_step (s : Step) :
    (step s).log = s.ownEvent?.toList.map Log.Event.anonymous := by
  cases s <;> rfl

@[simp] theorem log_emit (level : Log.Level) (origin : Log.Origin) (message : String)
    (fields : List (String × Log.FieldValue)) :
    (Step.emit level origin message fields).log =
      [Log.Event.anonymous ⟨level, origin, message, fields⟩] := rfl

/-- Where all steps are events, all of them are logged. -/
@[simp] theorem log_mapSteps (a : Log.Logged α) :
    (a.mapSteps Step.log).log = a.steps.map Log.Event.anonymous := by
  rw [log, mapSteps, List.filterMap_map]
  exact congrArg _ List.filterMap_some

@[simp] theorem log_outside (a : Traced Step α) : (a.mapSteps Step.outside).log = [] := by
  rw [log, filterMap_ownEvent?_outside]
  rfl

end Traced

/-- Which request an event is about is not told. -/
@[simp] theorem Log.Event.anonymous_idField (level : Log.Level) (origin : Log.Origin)
    (message : String) (r : Request) (fields : List (String × Log.FieldValue)) :
    Log.Event.anonymous ⟨level, origin, message, Server.idField r :: fields⟩ =
      Log.Event.anonymous ⟨level, origin, message, fields⟩ := by
  simp [anonymous, Server.idField]

/-! ## What is seen of requests and outcomes -/

namespace Http

/-- What is seen of a request: all but its identifier and what it carries. -/
def Request.veiled (r : Request) : Request := { r with id := .ofNat 0, payload := none }

/-- What is seen of a response: all but what it carries. -/
def Response.veiled (r : Response) : Response := { r with payload := .null }

/-- What is seen of an outcome: whether it is a success or a failure of which kind, and what is seen
of the response. -/
def veiled : Outcome → Outcome
  | .ok response => .ok response.veiled
  | .error failure => .error { failure with response := failure.response.veiled }

/-- What the log tells of a request is seen of it. -/
theorem Request.seen {r r' : Request} (h : r.veiled = r'.veiled) :
    r.url = r'.url ∧ r.baseUrl = r'.baseUrl ∧ r.method = r'.method :=
  ⟨(congrArg url h :), (congrArg baseUrl h :), (congrArg method h :)⟩

end Http

/-! ## Servers that look alike -/

namespace Server

/-- The routes differ in their handlers at most. -/
structure Route.Alike (r r' : Route) : Prop where
  path : r.path = r'.path
  method : r.method = r'.method
  template : r.template = r'.template
  pattern : r.pattern = r'.pattern

theorem Route.Alike.matchUrl_eq {r r' : Route} (h : r.Alike r') (url : String) :
    r.matchUrl url = r'.matchUrl url := by
  rw [matchUrl, matchUrl, h.pattern, h.template]

/-- Two scans end in the same way, at routes that are alike. -/
inductive Selection.Alike : Selection → Selection → Prop
  | route {number : Nat} {r r' : Route} {found : RouteMatch} :
    r.Alike r' → Alike (.route number r found) (.route number r' found)
  | otherMethod : Alike .otherMethod .otherMethod
  | nothing : Alike .nothing .nothing
  | gaveUp {r r' : Route} {e : PatternError} : r.Alike r' → Alike (.gaveUp r e) (.gaveUp r' e)

/-- A scan compares urls with routes, and looks at nothing else. -/
theorem choose_alike (request request' : Request) (hurl : request.url = request'.url)
    {method method' : Method} (hmethod : method = method') (seen : Bool)
    {routes routes' : List Route} (hroutes : List.Forall₂ Route.Alike routes routes') (k : Nat) :
    (choose request method seen (routes.zipIdx k)).log =
        (choose request' method' seen (routes'.zipIdx k)).log ∧
      Selection.Alike (choose request method seen (routes.zipIdx k)).value
        (choose request' method' seen (routes'.zipIdx k)).value := by
  subst hmethod
  induction hroutes generalizing seen k with
  | nil =>
    cases seen with
    | false => exact ⟨rfl, .nothing⟩
    | true => exact ⟨rfl, .otherMethod⟩
  | @cons r r' rest rest' hr _ ih =>
    have hmatch : r.matchUrl request.url = r'.matchUrl request'.url :=
      hurl ▸ hr.matchUrl_eq request.url
    rw [List.zipIdx_cons, List.zipIdx_cons, choose, choose, hmatch]
    cases r'.matchUrl request'.url with
    | error e => exact ⟨rfl, .gaveUp hr⟩
    | ok answer =>
      cases answer with
      | none => exact ih seen (k + 1)
      | some found =>
        dsimp only
        rw [hr.method]
        split
        · exact ⟨rfl, .route hr⟩
        · obtain ⟨hlog, hvalue⟩ := ih true (k + 1)
          refine ⟨?_, hvalue⟩
          simp only [Traced.log_bind, Traced.log_emit, Log.Event.anonymous_idField, hlog, hr.path]

/-! ### What handlers write -/

theorem both_or_neither {α β : Type} {a : Option α} {b : Option β} (h : a.isSome = b.isSome) :
    (a = none ∧ b = none) ∨ ∃ x y, a = some x ∧ b = some y := by
  cases a <;> cases b <;> simp_all

/-- What is seen of what a handler did. -/
structure Writing where
  status : Nat
  headers : Headers
  /-- The body stands for something: it is not announced as JSON, or it can be read. -/
  isReadable : Bool
  ending : Ending
  deriving DecidableEq, Repr

/-- What is seen of a draft and of how the handler ended. -/
def Writing.of (written : Draft × Ending) : Writing :=
  ⟨written.1.status, written.1.headers, written.1.payload?.isSome, written.2⟩

/-- What is seen of what the handler writes that answers a request, if there is one. -/
def writing? (s : Server) (given : Request) : Option Writing :=
  match s.selection given with
  | .route _ route found =>
    some (.of (route.handler { s.framed given with routeMatch := some found } {}))
  | _ => none

/-- Drafts that look the same are sent alike: the responses differ in what they carry, and where a
body cannot be read the event about it tells the status. -/
theorem send_alike {d d' : Draft} (hstatus : d.status = d'.status)
    (hheaders : d.headers = d'.headers) (hreadable : d.payload?.isSome = d'.payload?.isSome) :
    d.send.log = d'.send.log ∧ veiled d.send.value = veiled d'.send.value := by
  unfold Draft.send
  rw [hstatus, hheaders]
  obtain ⟨hnone, hnone'⟩ | ⟨payload, payload', hsome, hsome'⟩ := both_or_neither hreadable
  · rw [hnone, hnone']
    exact ⟨rfl, rfl⟩
  · -- whether a response is a success depends on its status only
    have hsuccess : (Response.new d'.status d'.headers payload).isSuccess =
      (Response.new d'.status d'.headers payload').isSuccess := rfl
    rw [hsome, hsome']
    refine ⟨rfl, ?_⟩
    dsimp only [Traced.value_pure]
    rw [hsuccess]
    split
    · rfl
    · rfl

/-- Of a handler, the log tells how it ended. -/
theorem conclude_alike (request request' : Request) {written written' : Draft × Ending}
    (h : Writing.of written = Writing.of written') :
    (conclude request written.1 written.2).log = (conclude request' written'.1 written'.2).log ∧
      veiled (conclude request written.1 written.2).value =
        veiled (conclude request' written'.1 written'.2).value := by
  obtain ⟨d, ending⟩ := written
  obtain ⟨d', ending'⟩ := written'
  obtain rfl : ending = ending' := congrArg Writing.ending h
  cases ending with
  | finished =>
    exact send_alike (congrArg Writing.status h) (congrArg Writing.headers h)
      (congrArg Writing.isReadable h)
  | failed message => exact ⟨by simp [conclude], by simp [conclude]⟩
  | panicked message => exact ⟨by simp [conclude], by simp [conclude]⟩

/-! ### Dispatches -/

/-- What is logged of an outcome that comes of a handler. -/
def outcomeEvent : Outcome → Log.Event
  | .ok response => ⟨.debug, .server, "Mock response", [("status", .number response.status)]⟩
  | .error failure => ⟨.debug, .server, "Mock failure",
      [("status", .number failure.response.status), ("kind", .text failure.kind.text)]⟩

theorem outcomeEvent_veiled (outcome : Outcome) :
    outcomeEvent (veiled outcome) = outcomeEvent outcome := by
  cases outcome <;> rfl

theorem log_closing (request : Request) (outcome : Outcome) :
    (closing request outcome).log = [outcomeEvent outcome] := by
  cases outcome <;> simp [closing, outcomeEvent, Log.Event.anonymous, idField]

/-- The servers keep what is carried out of the log. They differ at most in the functions that were
handed over and in their latency. -/
structure Alike (s t : Server) : Prop where
  discreet : s.logPayloads = false ∧ t.logPayloads = false
  baseUrl : s.baseUrl = t.baseUrl
  method : s.method = t.method
  routePrefix : s.routePrefix = t.routePrefix
  store : s.store = t.store
  routes : List.Forall₂ Route.Alike s.routes t.routes
  fallback : s.fallback.isSome = t.fallback.isSome

/-- With payloads switched off, an answer logs that it is given, how the handler ended, and what
came of it. -/
theorem log_answer (others : Interference) {s : Server} (h : s.logPayloads = false)
    (method : Method) (request : Request) (number : Nat) (route : Route) (found : RouteMatch) :
    let answered := { request with routeMatch := some found }
    let concluded := conclude answered (route.handler answered {}).1 (route.handler answered {}).2
    (s.answer others method request number route found).log =
      ⟨.debug, .server, "Dispatching to mock route",
        [("method", .text method.name), ("url", .text request.url), ("route", .text found.path),
          ("params", .params found.paramsMap)]⟩ ::
        (concluded.log ++ [outcomeEvent concluded.value]) := by
  have hpause : (s.pause others).log = [] := by
    rw [Traced.log, steps_pause]
    cases s.latency.isOff <;> rfl
  unfold answer opening await
  dsimp only
  rw [h]
  generalize { request with routeMatch := some found } = answered
  simp [hpause, log_closing, Step.ownEvent?, Log.Event.anonymous, idField]

theorem answer_alike (others : Interference) {s t : Server} (h : s.Alike t)
    {method method' : Method} (hmethod : method = method')
    {request request' : Request} (hurl : request.url = request'.url)
    (number : Nat) {r r' : Route} {found : RouteMatch}
    (hwriting : Writing.of (r.handler { request with routeMatch := some found } {}) =
      Writing.of (r'.handler { request' with routeMatch := some found } {})) :
    (s.answer others method request number r found).log =
      (t.answer others method' request' number r' found).log := by
  obtain ⟨hconclude, houtcome⟩ := conclude_alike { request with routeMatch := some found }
    { request' with routeMatch := some found } hwriting
  rw [log_answer others h.discreet.1, log_answer others h.discreet.2, hconclude,
    ← outcomeEvent_veiled, houtcome, outcomeEvent_veiled, hurl, hmethod]

/-- A dispatch logs what is seen of the request and of what a handler wrote. -/
theorem dispatch_alike {s t : Server} (h : s.Alike t) {given given' : Request}
    (hgiven : given.veiled = given'.veiled) (hwriting : s.writing? given = t.writing? given') :
    (s.dispatch given).log = (t.dispatch given').log := by
  obtain ⟨hurl, hbase, hmethod⟩ := Request.seen hgiven
  have hfull : s.fullUrl given = t.fullUrl given' := by
    rw [fullUrl, fullUrl, h.baseUrl, hbase, hurl]
  have hasked : given.method.getD s.method = given'.method.getD t.method := by
    rw [h.method, hmethod]
  obtain ⟨hlog, hends⟩ := choose_alike (s.framed given) (t.framed given') hfull hasked false
    h.routes 0
  -- the scan, and what follows from how it ends
  rw [dispatch, dispatch, dispatchAmid, dispatchAmid, Traced.log_bind, Traced.log_bind, hlog]
  congr 1
  rw [writing?, writing?, selection, selection] at hwriting
  generalize (choose (s.framed given) _ false s.routes.zipIdx).value = ending at hends hwriting ⊢
  generalize (choose (t.framed given') _ false t.routes.zipIdx).value = ending' at hends hwriting ⊢
  cases hends with
  | route hr => exact answer_alike _ h hasked hfull _ (Option.some_inj.mp hwriting)
  | otherMethod => simp [settle, hfull, hasked]
  | nothing =>
    obtain ⟨hs, ht⟩ | ⟨driver, driver', hs, ht⟩ := both_or_neither h.fallback
    · simp [settle, hs, ht, hfull, hasked]
    · simp [settle, hs, ht, hurl, await, Step.ownEvent?]
  | gaveUp hr => simp [settle, hr.path]

/-! ### Registrations of routes -/

theorem addRoute_alike {s t : Server} (h : s.Alike t) (path : String) (method : Method)
    (f g : Handler) :
    (s.addRoute path method f).steps = (t.addRoute path method g).steps ∧
      (s.addRoute path method f).value.1.Alike (t.addRoute path method g).value.1 ∧
      (s.addRoute path method f).value.2 = (t.addRoute path method g).value.2 := by
  have htemplate : s.routePrefix ++ path = t.routePrefix ++ path := by rw [h.routePrefix]
  have hcompile : s.store.compile (s.routePrefix ++ path) routeFlags =
      t.store.compile (t.routePrefix ++ path) routeFlags := by rw [h.store, htemplate]
  unfold addRoute
  simp only [Traced.steps_bind, Traced.value_bind, hcompile]
  generalize t.store.compile (t.routePrefix ++ path) routeFlags = compiled
  obtain ⟨⟨store, answer⟩, steps⟩ := compiled
  cases answer with
  | error e =>
    have hkept : Alike { s with store := store } { t with store := store } :=
      { h with store := rfl }
    exact ⟨rfl, hkept, rfl⟩
  | ok c =>
    have hroutes : List.Forall₂ Route.Alike
        (s.routes ++ [⟨path, method, s.routePrefix ++ path, c.pattern, f⟩])
        (t.routes ++ [⟨path, method, t.routePrefix ++ path, c.pattern, g⟩]) :=
      List.rel_append h.routes (.cons ⟨rfl, rfl, htemplate, rfl⟩ .nil)
    have hkept : Alike
        { s with
          store := store
          routes := s.routes ++ [⟨path, method, s.routePrefix ++ path, c.pattern, f⟩] }
        { t with
          store := store
          routes := t.routes ++ [⟨path, method, t.routePrefix ++ path, c.pattern, g⟩] } :=
      { h with store := rfl, routes := hroutes }
    refine ⟨?_, hkept, rfl⟩
    simp only [h.routes.length_eq, htemplate]
    rfl

/-- What is seen of a fixture while it is registered. -/
def Fixture.key (f : Fixture) : String × Method := (f.path, f.method)

theorem addFixtures_alike {s t : Server} (h : s.Alike t) {fs gs : List Fixture}
    (hkeys : fs.map Fixture.key = gs.map Fixture.key) :
    (s.addFixtures fs).steps = (t.addFixtures gs).steps ∧
      (s.addFixtures fs).value.1.Alike (t.addFixtures gs).value.1 := by
  induction fs generalizing s t gs with
  | nil =>
    obtain rfl := List.map_eq_nil_iff.mp hkeys.symm
    exact ⟨rfl, h⟩
  | cons f fs ih =>
    obtain ⟨g, gs, rfl, hkey, hrest⟩ := List.map_eq_cons_iff.mp hkeys.symm
    obtain ⟨hpath, hmethod⟩ := Prod.mk.inj hkey
    obtain ⟨hsteps, halike, hanswer⟩ := addRoute_alike h f.path f.method f.handler g.handler
    rw [addFixtures, addFixtures]
    simp only [Traced.steps_bind, Traced.value_bind, hpath, hmethod, hsteps, hanswer]
    cases (t.addRoute f.path f.method g.handler).value.2 with
    | error e => exact ⟨rfl, halike⟩
    | ok _ =>
      obtain ⟨hsteps', halike'⟩ := ih halike hrest.symm
      refine ⟨?_, halike'⟩
      simp only [Traced.steps_bind, hsteps']
      rfl

end Server

end MockHttp
