import Mathlib.Data.List.Forall2
import MockHttp.Proofs.Server.Steps
import MockHttp.Proofs.Template.Store

/-!
# Which route answers

A server scans its routes in the order of their registration and keeps scanning past those that
match under another method. The patterns it scans with were compiled when the routes were
registered; the invariant `Serves` says that they are the compiled forms of the paths, so that a
route matches exactly as a store would match its path, whether the store still keeps it or not.

Results:
1. `Reached.serves`: the invariant holds of every server that registrations lead to.
2. `choose_eq_route`, `choose_eq_none`: what a scan ends with.
3. `dispatch_selects`: who answers a request, and that nobody else is called.
-/

namespace MockHttp

open Http Template

/-! ## Calls -/

def Step.isCall : Step → Bool
  | handle _ _ | fallback _ => true
  | _ => false

def Traced.calls {α : Type} (a : Traced Step α) : List Step := a.steps.filter Step.isCall

namespace Traced

variable {α β : Type}

@[simp] theorem calls_pure (a : α) : (Pure.pure a : Traced Step α).calls = [] := rfl

@[simp] theorem calls_bind (a : Traced Step α) (f : α → Traced Step β) :
    (a >>= f).calls = a.calls ++ (f a.value).calls := by
  simp only [calls, steps_bind, List.filter_append]

@[simp] theorem calls_handle (route : Nat) (request : Request) :
    (step (Step.handle route request)).calls = [.handle route request] := rfl

@[simp] theorem calls_fallback (request : Request) :
    (step (Step.fallback request)).calls = [.fallback request] := rfl

@[simp] theorem calls_emit (level : Log.Level) (origin : Log.Origin) (message : String)
    (fields : List (String × Log.FieldValue)) :
    (Step.emit level origin message fields).calls = [] := rfl

/-- What a driver that was handed over calls is no call of the server. -/
@[simp] theorem calls_outside (a : Traced Step α) : (a.mapSteps Step.outside).calls = [] :=
  a.filter_outside_eq_nil fun _ => rfl

theorem Reports.calls {a : Traced Step α} {messages : List String} (h : a.Reports messages) :
    a.calls = [] := h.filter_eq_nil fun _ => rfl

end Traced

namespace Server

/-! ## Servers that registrations lead to -/

/-- What a route is registered with. -/
structure Registration where
  path : String
  method : Method
  handler : Handler

/-- The server is reached from a configuration by some registrations, in that order. A registration
that is refused leaves no route. Fallback and latency may be set at any time. -/
inductive Reached (config : Config) : List Registration → Server → Prop where
  | new : Reached config [] (Server.new config)
  | add {rs : List Registration} {s s' : Server} (r : Registration) :
    Reached config rs s → (s.addRoute r.path r.method r.handler).value = (s', .ok ()) →
    Reached config (rs ++ [r]) s'
  | refuse {rs : List Registration} {s s' : Server} {e : PatternError} (r : Registration) :
    Reached config rs s → (s.addRoute r.path r.method r.handler).value = (s', .error e) →
    Reached config rs s'
  | set {rs : List Registration} {s : Server} (fallback : Option Driver) (latency : Latency) :
    Reached config rs s → Reached config rs { s with fallback := fallback, latency := latency }

/-- The route is the one that the registration asks for. -/
structure IsRouteOf (config : Config) (r : Registration) (route : Route) : Prop where
  method : route.method = r.method
  handler : route.handler = r.handler
  template : route.template = config.server.routePrefix ++ r.path
  pattern : routeFlags.compile route.template = .ok route.pattern

/-- The server has a route for every registration, and its store is faithful. -/
structure Serves (config : Config) (rs : List Registration) (s : Server) : Prop where
  baseUrl : s.baseUrl = config.baseUrl
  method : s.method = config.method
  routePrefix : s.routePrefix = config.server.routePrefix
  store : s.store.IsFaithful
  routes : List.Forall₂ (IsRouteOf config) rs s.routes

/-- A registration compiles the path, and keeps the pattern if there is one. -/
theorem addRoute_eq (s : Server) (r : Registration) :
    (s.addRoute r.path r.method r.handler).value =
      match (s.store.compile (s.routePrefix ++ r.path) routeFlags).value with
      | (store, .error e) => ({ s with store := store }, .error e)
      | (store, .ok c) => ({ s with
          store := store
          routes := s.routes ++
            [⟨r.path, r.method, s.routePrefix ++ r.path, c.pattern, r.handler⟩] }, .ok ()) := by
  unfold addRoute
  rw [Traced.value_bind]
  obtain ⟨store, compiled⟩ := (s.store.compile (s.routePrefix ++ r.path) routeFlags).value
  cases compiled with
  | error e => rfl
  | ok c => rfl

theorem addRoute_eq_ok_iff (s : Server) (r : Registration) :
    (s.addRoute r.path r.method r.handler).value.2 = .ok () ↔
      (s.store.compile (s.routePrefix ++ r.path) routeFlags).value.2.isOk = true := by
  rw [addRoute_eq]
  obtain ⟨store, compiled⟩ := (s.store.compile (s.routePrefix ++ r.path) routeFlags).value
  cases compiled with
  | error e => exact iff_of_false nofun nofun
  | ok c => exact iff_of_true rfl rfl

theorem Reached.serves {config : Config} {rs : List Registration} {s : Server}
    (h : Reached config rs s) : Serves config rs s := by
  induction h with
  | new => exact ⟨rfl, rfl, rfl, .new _, .nil⟩
  | @add rs s s' r _ hadd ih =>
    -- the store may hold the pattern or compile it: it is the same one
    have hcompile := Store.compile_spec ih.store (s.routePrefix ++ r.path) routeFlags
    rw [addRoute_eq] at hadd
    revert hcompile hadd
    obtain ⟨store, compiled⟩ := (s.store.compile (s.routePrefix ++ r.path) routeFlags).value
    rintro hadd ⟨hkeep, hpattern⟩
    cases compiled with
    | error e => simp at hadd
    | ok c =>
      obtain ⟨rfl, _⟩ := Prod.mk.inj hadd
      have hroute : IsRouteOf config r
          ⟨r.path, r.method, s.routePrefix ++ r.path, c.pattern, r.handler⟩ :=
        ⟨rfl, rfl, by rw [ih.routePrefix], hpattern.symm⟩
      exact ⟨ih.baseUrl, ih.method, ih.routePrefix, hkeep,
        List.rel_append ih.routes (.cons hroute .nil)⟩
  | @refuse rs s s' e r _ hadd ih =>
    have hcompile := Store.compile_spec ih.store (s.routePrefix ++ r.path) routeFlags
    rw [addRoute_eq] at hadd
    revert hcompile hadd
    obtain ⟨store, compiled⟩ := (s.store.compile (s.routePrefix ++ r.path) routeFlags).value
    rintro hadd ⟨hkeep, _⟩
    cases compiled with
    | error e =>
      obtain ⟨rfl, _⟩ := Prod.mk.inj hadd
      exact ⟨ih.baseUrl, ih.method, ih.routePrefix, hkeep, ih.routes⟩
    | ok c => simp at hadd
  | set fallback latency _ ih => exact ⟨ih.baseUrl, ih.method, ih.routePrefix, ih.store, ih.routes⟩

/-! ## Scans -/

/-- What a store says about a url and the path of a registration, the whole url being asked for,
letter for letter. -/
def Registration.matchIn (r : Registration) (config : Config) (store : Store) (url : String) :
    Except PatternError (Option RouteMatch) :=
  (store.matchPath url
    { paths := [config.server.routePrefix ++ r.path]
      exact := true
      strict := true
      sensitive := true }).value.2

theorem Registration.matchIn_eq (r : Registration) (config : Config) {store : Store}
    (hstore : store.IsFaithful) (url : String) :
    r.matchIn config store url =
      firstMatch routeFlags.options url true [config.server.routePrefix ++ r.path] :=
  (Store.matchAny_spec hstore url routeFlags _).2

/-- A route matches a url as any faithful store matches its path. -/
theorem IsRouteOf.matchUrl_eq {config : Config} {r : Registration} {route : Route}
    (h : IsRouteOf config r route) {store : Store} (hstore : store.IsFaithful) (url : String) :
    route.matchUrl url = r.matchIn config store url := by
  have hcompile : (Source.template (config.server.routePrefix ++ r.path).toList).compile
      routeFlags.options = .ok route.pattern := by
    rw [← h.template]
    exact h.pattern
  rw [r.matchIn_eq config hstore, Route.matchUrl, h.template, firstMatch_singleton hcompile]

section Choose

variable {config : Config} {rs : List Registration} {routes : List Route} {request : Request}
  {method : Method} {matched : Registration → Option RouteMatch}

/-- The scan ends with the earliest route that matches and has the method. -/
theorem choose_eq_route (hroutes : List.Forall₂ (IsRouteOf config) rs routes)
    (hmatched : List.Forall₂ (fun r route => route.matchUrl request.url = .ok (matched r))
      rs routes)
    {n : Nat} {r : Registration} {found : RouteMatch} (hr : rs[n]? = some r)
    (hmethod : r.method = method) (hfound : matched r = some found)
    (hfirst : ∀ i < n, ∀ r', rs[i]? = some r' → r'.method = method → matched r' = none)
    (seen : Bool) (k : Nat) :
    ∃ route, IsRouteOf config r route ∧
      (choose request method seen (routes.zipIdx k)).value = .route (k + n) route found := by
  induction hroutes generalizing n seen k with
  | nil => simp at hr
  | @cons r' route rs routes hroute hroutes ih =>
    obtain ⟨hhead, hmatched⟩ := List.forall₂_cons.mp hmatched
    rw [List.zipIdx_cons]
    unfold choose
    rw [hhead]
    cases n with
    | zero =>
      obtain rfl : r' = r := by simpa using hr
      rw [hfound]
      dsimp only
      rw [if_pos (hroute.method.trans hmethod)]
      exact ⟨route, hroute, rfl⟩
    | succ n =>
      have hrest := ih hmatched (by simpa using hr) fun i hi s hs =>
        hfirst (i + 1) (Nat.succ_lt_succ hi) s (by simpa using hs)
      have hk : k + (n + 1) = k + 1 + n := by omega
      rw [hk]
      cases hhead' : matched r' with
      | none => exact hrest seen (k + 1)
      | some other =>
        -- the route matches, but is not the earliest with the method
        have hother : route.method ≠ method := by
          intro heq
          have hnone := hfirst 0 (Nat.succ_pos n) r' rfl (hroute.method.symm.trans heq)
          rw [hhead'] at hnone
          exact absurd hnone (by simp)
        dsimp only
        rw [if_neg hother, Traced.value_bind]
        exact hrest true (k + 1)

/-- Where no route that matches has the method, the scan only tells whether one matches. -/
theorem choose_eq_none (hroutes : List.Forall₂ (IsRouteOf config) rs routes)
    (hmatched : List.Forall₂ (fun r route => route.matchUrl request.url = .ok (matched r))
      rs routes)
    (hnone : ∀ r ∈ rs, r.method = method → matched r = none) (seen : Bool) (k : Nat) :
    (choose request method seen (routes.zipIdx k)).value =
      if seen || rs.any fun r => (matched r).isSome then .otherMethod else .nothing := by
  induction hroutes generalizing seen k with
  | nil => cases seen <;> rfl
  | @cons r route rs routes hroute hroutes ih =>
    obtain ⟨hhead, hmatched⟩ := List.forall₂_cons.mp hmatched
    have hrest := ih hmatched fun r hr => hnone r (List.mem_cons_of_mem _ hr)
    rw [List.zipIdx_cons]
    unfold choose
    rw [hhead]
    cases hhead' : matched r with
    | none =>
      dsimp only
      rw [hrest seen (k + 1)]
      simp [hhead']
    | some other =>
      have hother : route.method ≠ method := by
        intro heq
        have hnone := hnone r List.mem_cons_self (hroute.method.symm.trans heq)
        rw [hhead'] at hnone
        exact absurd hnone (by simp)
      dsimp only
      rw [if_neg hother, Traced.value_bind, hrest true (k + 1)]
      simp [hhead']

theorem forall₂_matchUrl (hroutes : List.Forall₂ (IsRouteOf config) rs routes) {store : Store}
    (hstore : store.IsFaithful) {url : String}
    (hmatched : ∀ r ∈ rs, r.matchIn config store url = .ok (matched r)) :
    List.Forall₂ (fun r route => route.matchUrl url = .ok (matched r)) rs routes := by
  induction hroutes with
  | nil => exact .nil
  | @cons r route rs routes hroute hroutes ih =>
    refine .cons ?_ (ih fun r hr => hmatched r (List.mem_cons_of_mem _ hr))
    rw [hroute.matchUrl_eq hstore]
    exact hmatched r List.mem_cons_self

end Choose

/-! ## Answers -/

theorem calls_pause (others : Interference) (s : Server) : (s.pause others).calls = [] := by
  rw [Traced.calls, steps_pause]
  cases s.latency.isOff <;> rfl

/-- The route that answers is called once and its handler decides the outcome. -/
theorem answer_spec (others : Interference) (s : Server) (method : Method) (request : Request)
    (number : Nat) (route : Route) (found : RouteMatch) :
    (s.answer others method request number route found).calls =
        [.handle number { request with routeMatch := some found }] ∧
      (s.answer others method request number route found).value.2 =
        (conclude { request with routeMatch := some found }
          (route.handler { request with routeMatch := some found } {}).1
          (route.handler { request with routeMatch := some found } {}).2).value := by
  unfold answer await
  dsimp only
  generalize { request with routeMatch := some found } = answered
  constructor
  · simp [calls_pause, (reports_opening s method request found).calls,
      (reports_conclude answered _ _).calls, (reports_closing answered _).calls]
  · rfl

/-- The url that a request asks for: after its own base, if that is not empty, or after the one of
the configuration. -/
def urlOf (config : Config) (given : Request) : String :=
  (match given.baseUrl with
    | some base => if base = "" then config.baseUrl else base
    | none => config.baseUrl) ++ given.url

theorem fullUrl_eq {config : Config} {s : Server} (h : s.baseUrl = config.baseUrl)
    (given : Request) : s.fullUrl given = urlOf config given := by
  unfold fullUrl urlOf
  rw [h]
  cases given.baseUrl with
  | none => rfl
  | some base => simp [String.isEmpty_iff]

/-- The request as the routes see it. -/
def seenBy (config : Config) (given : Request) : Request :=
  { given with url := urlOf config given, method := some (given.method.getD config.method) }

theorem framed_eq {config : Config} {s : Server} (hbase : s.baseUrl = config.baseUrl)
    (hmethod : s.method = config.method) (given : Request) :
    s.framed given = seenBy config given := by
  rw [framed, fullUrl_eq hbase, hmethod]
  rfl

/-- What has been called and what the outcome is, given what the scan ended with. -/
def Follows (s : Server) (given seen : Request) : Selection → Prop
  | .route n route found =>
    (s.dispatch given).calls = [.handle n { seen with routeMatch := some found }] ∧
      (s.dispatch given).value.2 =
        (conclude { seen with routeMatch := some found }
          (route.handler { seen with routeMatch := some found } {}).1
          (route.handler { seen with routeMatch := some found } {}).2).value
  | .otherMethod =>
    (s.dispatch given).calls = [] ∧ (s.dispatch given).value.2 = .error .methodNotAllowed
  | .nothing =>
    (∀ driver, s.fallback = some driver →
      (s.dispatch given).calls = [.fallback given] ∧
        (s.dispatch given).value.2 = (driver given).value) ∧
    (s.fallback = none →
      (s.dispatch given).calls = [] ∧ (s.dispatch given).value.2 = .error .notFound)
  | .gaveUp _ e =>
    (s.dispatch given).calls = [] ∧ (s.dispatch given).value.2 = .error (.handler e.message)

/-- What a dispatch does once the scan has ended. -/
theorem follows_of_choose {config : Config} {s : Server} (hbase : s.baseUrl = config.baseUrl)
    (hmethod : s.method = config.method) (given : Request) {selection : Selection}
    (hchoose : (choose (seenBy config given) (given.method.getD config.method) false
      s.routes.zipIdx).value = selection) : s.Follows given (seenBy config given) selection := by
  have hseen := framed_eq hbase hmethod given
  have hscan := (reports_choose (seenBy config given) (given.method.getD config.method) false
    s.routes.zipIdx).calls
  have hcalls : (s.dispatch given).calls = (settle (fun _ s => s) s given selection).calls := by
    rw [dispatch, dispatchAmid, Traced.calls_bind, hseen, hmethod, hscan, hchoose, List.nil_append]
  have hvalue : (s.dispatch given).value = (settle (fun _ s => s) s given selection).value := by
    rw [dispatch, dispatchAmid, Traced.value_bind, hseen, hmethod, hchoose]
  cases selection with
  | route n route found =>
    rw [Follows, hcalls, hvalue, settle, hseen]
    exact answer_spec _ s _ _ n route found
  | otherMethod =>
    rw [Follows, hcalls, hvalue]
    exact ⟨rfl, rfl⟩
  | gaveUp route e =>
    rw [Follows, hcalls, hvalue]
    exact ⟨rfl, rfl⟩
  | nothing =>
    rw [Follows, hcalls, hvalue, settle]
    constructor
    · intro driver hdriver
      rw [hdriver]
      exact ⟨by simp [await], rfl⟩
    · intro hnone
      rw [hnone]
      exact ⟨rfl, rfl⟩

theorem dispatch_follows {config : Config} {rs : List Registration} {s : Server}
    (hs : Serves config rs s) (given : Request) {selection : Selection}
    (hchoose : (choose (seenBy config given) (given.method.getD config.method) false
      s.routes.zipIdx).value = selection) : s.Follows given (seenBy config given) selection :=
  follows_of_choose hs.baseUrl hs.method given hchoose

/-- Who answers a request, where every route can be compared with its url. If a route matches and
has the method, the earliest such route is called once, with its match, and nobody else; its handler
decides the outcome. If routes match under other methods only, nobody is called and the method is
not allowed. If no route matches, the fallback is called once with the request as it came, and its
outcome is the outcome; without a fallback nothing is found. -/
theorem dispatch_selects {config : Config} {rs : List Registration} {s : Server}
    (hs : Reached config rs s) (given : Request)
    (hanswers : ∀ r ∈ rs, ∃ found, r.matchIn config s.store (urlOf config given) = .ok found) :
    (∀ n r found, rs[n]? = some r → r.method = given.method.getD config.method →
      r.matchIn config s.store (urlOf config given) = .ok (some found) →
      (∀ i < n, ∀ r', rs[i]? = some r' → r'.method = given.method.getD config.method →
        r'.matchIn config s.store (urlOf config given) = .ok none) →
      let answered := { seenBy config given with routeMatch := some found }
      (s.dispatch given).calls = [.handle n answered] ∧
        (s.dispatch given).value.2 =
          (conclude answered (r.handler answered {}).1 (r.handler answered {}).2).value) ∧
    ((∃ r ∈ rs, ∃ found, r.matchIn config s.store (urlOf config given) = .ok (some found)) →
      (∀ r ∈ rs, r.method = given.method.getD config.method →
        r.matchIn config s.store (urlOf config given) = .ok none) →
      (s.dispatch given).calls = [] ∧ (s.dispatch given).value.2 = .error .methodNotAllowed) ∧
    ((∀ r ∈ rs, r.matchIn config s.store (urlOf config given) = .ok none) →
      (∀ driver, s.fallback = some driver →
        (s.dispatch given).calls = [.fallback given] ∧
          (s.dispatch given).value.2 = (driver given).value) ∧
      (s.fallback = none →
        (s.dispatch given).calls = [] ∧ (s.dispatch given).value.2 = .error .notFound)) := by
  have hserves := hs.serves
  have hmatched : ∀ r ∈ rs, r.matchIn config s.store (urlOf config given) =
      .ok (r.matchIn config s.store (urlOf config given)).toOption.join := by
    intro r hr
    obtain ⟨found, hfound⟩ := hanswers r hr
    rw [hfound]
    rfl
  have hroutes : List.Forall₂ (fun r route => route.matchUrl (seenBy config given).url =
      .ok (r.matchIn config s.store (urlOf config given)).toOption.join) rs s.routes :=
    forall₂_matchUrl hserves.routes hserves.store hmatched
  refine ⟨?_, ?_, ?_⟩
  · intro n r found hr hmethod hfound hfirst
    obtain ⟨route, hroute, hchoose⟩ := choose_eq_route hserves.routes hroutes hr hmethod
      (by rw [hfound]; rfl) (fun i hi r' hr' h => by rw [hfirst i hi r' hr' h]; rfl) false 0
    rw [Nat.zero_add] at hchoose
    have hfollows := dispatch_follows hserves given hchoose
    rw [Follows, hroute.handler] at hfollows
    exact hfollows
  · rintro ⟨r, hr, found, hfound⟩ hnone
    have hchoose := choose_eq_none hserves.routes hroutes
      (fun r hr h => by rw [hnone r hr h]; rfl) false 0
    have hsome : (rs.any fun r =>
        (r.matchIn config s.store (urlOf config given)).toOption.join.isSome) = true :=
      List.any_eq_true.mpr ⟨r, hr, by rw [hfound]; rfl⟩
    rw [hsome] at hchoose
    exact dispatch_follows hserves given hchoose
  · intro hnone
    have hother : ∀ r ∈ rs, r.method = given.method.getD config.method →
        (r.matchIn config s.store (urlOf config given)).toOption.join = none := by
      intro r hr _
      rw [hnone r hr]
      rfl
    have hchoose := choose_eq_none hserves.routes hroutes hother false 0
    have hsome : (rs.any fun r =>
        (r.matchIn config s.store (urlOf config given)).toOption.join.isSome) = false :=
      List.any_eq_false.mpr fun r hr => by
        rw [hnone r hr]
        exact Bool.false_ne_true
    rw [hsome] at hchoose
    exact dispatch_follows hserves given hchoose

/-- Two routes that match the same url under different methods. -/
def overlapping : List Registration :=
  [⟨"/a", .post, fun _ d => (d, .finished)⟩, ⟨"/:x", .get, fun _ d => (d, .finished)⟩]

/-- A server with these routes. -/
def overlappingServer : Server :=
  overlapping.foldl (fun s r => (s.addRoute r.path r.method r.handler).value.1) (Server.new {})

theorem reached_overlapping : Reached {} overlapping overlappingServer := by
  have hfirst : Reached {} [⟨"/a", .post, fun _ d => (d, .finished)⟩]
      ((Server.new {}).addRoute "/a" .post fun _ d => (d, .finished)).value.1 :=
    Reached.new.add ⟨"/a", .post, fun _ d => (d, .finished)⟩ (Prod.ext rfl (by decide +kernel))
  exact hfirst.add ⟨"/:x", .get, fun _ d => (d, .finished)⟩ (Prod.ext rfl (by decide +kernel))

/-- A request for the url that both routes match. -/
def getA : Request := { Request.new (.ofNat 0) "/a" with method := some .get }

/-- The second route answers, although the first one matches as well. -/
theorem dispatch_selects_overlapping :
    (∀ r ∈ overlapping,
      ∃ found, r.matchIn {} overlappingServer.store (urlOf {} getA) = .ok found) ∧
      (overlappingServer.dispatch getA).calls = [.handle 1 { seenBy {} getA with
        routeMatch := some ⟨"/:x", "/a", true, [(.named "x", some "a")]⟩ }] := by
  have hurl : urlOf {} getA = "/a" := by decide
  have hsecond : Registration.matchIn ⟨"/:x", .get, fun _ d => (d, .finished)⟩ {}
      overlappingServer.store (urlOf {} getA) =
        .ok (some ⟨"/:x", "/a", true, [(.named "x", some "a")]⟩) := by
    rw [hurl]
    decide +kernel
  have hanswers : ∀ r ∈ overlapping,
      ∃ found, r.matchIn {} overlappingServer.store (urlOf {} getA) = .ok found := by
    intro r hr
    simp only [overlapping, List.mem_cons, List.not_mem_nil, or_false] at hr
    rcases hr with rfl | rfl
    · refine ⟨some ⟨"/a", "/a", true, []⟩, ?_⟩
      rw [hurl]
      decide +kernel
    · exact ⟨_, hsecond⟩
  have hfirst : ∀ i < 1, ∀ r, overlapping[i]? = some r → r.method = getA.method.getD .post →
      r.matchIn {} overlappingServer.store (urlOf {} getA) = .ok none := by
    intro i hi r hr hmethod
    obtain rfl : i = 0 := by omega
    cases hr
    exact absurd hmethod (by decide)
  exact ⟨hanswers, ((dispatch_selects reached_overlapping getA hanswers).1 1 _ _ rfl rfl hsecond
    hfirst).1⟩

end Server

end MockHttp
