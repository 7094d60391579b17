import MockHttp.Proofs.Server.Fixtures

/-!
# What registrations leave behind

A registration whose template does not compile leaves no route, and a list of fixtures leaves the
routes of those before the first one that does not compile. Nothing that is registered takes a route
away or puts one in front of another, so the routes are those of the registrations that succeeded,
in the order of the calls.

Results:
1. `addRoute_of_ok`, `addRoute_of_error`: a registration succeeds if its template compiles, and
   otherwise one counter of the store changes.
2. `addFixtures_of_ok`, `addFixtures_of_error`: so does a list of fixtures, and otherwise it ends at
   the first template that does not compile.
3. `registrations_kept`: what single calls do after any calls, and the routes that have come of
   these.
-/

namespace MockHttp.Server

open Http Template

/-! ## Single registrations -/

/-- The route that a registration makes behind a prefix, or the error of its template. -/
def Registration.make (r : Registration) (routePrefix : String) : Except PatternError Route :=
  (routeFlags.compile (routePrefix ++ r.path)).map fun pattern =>
    ⟨r.path, r.method, routePrefix ++ r.path, pattern, r.handler⟩

/-- A registration that is refused changes one counter of the store, whatever the server is. -/
theorem eq_of_addRoute {s s' : Server} {r : Registration} {e : PatternError}
    (h : (s.addRoute r.path r.method r.handler).value = (s', .error e)) :
    s' = { s with store := s.store.miss } := by
  rw [addRoute_eq] at h
  split at h
  · next store e' hcompile =>
    obtain ⟨rfl, -⟩ := Prod.mk.inj h
    rw [Store.eq_miss_of_compile hcompile]
  · exact absurd (Prod.mk.inj h).2 (by simp)

section AddRoute

variable {s : Server} {r : Registration}

theorem addRoute_of_ok (hs : s.store.IsFaithful) {route : Route}
    (hr : r.make s.routePrefix = .ok route) :
    ∃ store : Store, store.IsFaithful ∧ (s.addRoute r.path r.method r.handler).value =
      ({ s with store := store, routes := s.routes ++ [route] }, .ok ()) := by
  obtain ⟨hfaithful, hpattern⟩ := Store.compile_spec hs (s.routePrefix ++ r.path) routeFlags
  rw [Registration.make, ← hpattern] at hr
  rw [addRoute_eq]
  cases hcompile : (s.store.compile (s.routePrefix ++ r.path) routeFlags).value with
  | mk store compiled =>
    rw [hcompile] at hfaithful hr
    cases compiled with
    | error e => exact absurd hr (by simp [Except.map])
    | ok c =>
      obtain rfl := Except.ok.inj hr
      exact ⟨store, hfaithful, rfl⟩

theorem addRoute_of_error (hs : s.store.IsFaithful) {e : PatternError}
    (hr : r.make s.routePrefix = .error e) :
    (s.addRoute r.path r.method r.handler).value =
      ({ s with store := s.store.miss }, .error e) := by
  obtain ⟨-, hpattern⟩ := Store.compile_spec hs (s.routePrefix ++ r.path) routeFlags
  rw [Registration.make, ← hpattern] at hr
  rw [addRoute_eq]
  cases hcompile : (s.store.compile (s.routePrefix ++ r.path) routeFlags).value with
  | mk store compiled =>
    rw [hcompile] at hr
    cases compiled with
    | ok c => exact absurd hr (by simp [Except.map])
    | error e' =>
      obtain rfl := Except.error.inj hr
      rw [Store.eq_miss_of_compile hcompile]

end AddRoute

/-! ## Lists of fixtures -/

def Fixture.make (f : Fixture) (routePrefix : String) : Except PatternError Route :=
  f.registration.make routePrefix

section AddFixtures

variable {s : Server} {fs : List Fixture} {routes : List Route}

/-- Fixtures that make routes are added, and what comes after them is added to the server with
these routes. -/
theorem addFixtures_append (hs : s.store.IsFaithful)
    (hfs : fs.map (·.make s.routePrefix) = routes.map .ok) (rest : List Fixture) :
    ∃ store : Store, store.IsFaithful ∧
      let s' : Server := { s with store := store, routes := s.routes ++ routes }
      (s.addFixtures (fs ++ rest)).value =
        ((s'.addFixtures rest).value.1, (s'.addFixtures rest).value.2.map (· + fs.length)) := by
  induction fs generalizing s routes with
  | nil =>
    obtain rfl := List.map_eq_nil_iff.mp hfs.symm
    refine ⟨s.store, hs, ?_⟩
    simp only [List.append_nil, List.nil_append, List.length_nil, Nat.add_zero]
    cases (s.addFixtures rest).value with
    | mk s' answer => cases answer <;> rfl
  | cons f fs ih =>
    obtain ⟨route, routes, rfl⟩ : ∃ route routes', routes = route :: routes' := by
      cases routes with
      | nil => exact absurd hfs (by simp)
      | cons route routes => exact ⟨route, routes, rfl⟩
    obtain ⟨hf, hrest⟩ := List.cons.inj hfs
    obtain ⟨store, hstore, hadd⟩ := addRoute_of_ok hs hf
    change (s.addRoute f.path f.method f.handler).value = _ at hadd
    obtain ⟨store', hstore', hfixtures⟩ := ih (s := { s with
      store := store
      routes := s.routes ++ [route] }) hstore hrest
    refine ⟨store', hstore', ?_⟩
    rw [List.cons_append, addFixtures, Traced.value_bind, hadd]
    dsimp only
    rw [Traced.value_bind, hfixtures, List.append_assoc, List.singleton_append, List.length_cons]
    dsimp only
    rw [Traced.value_pure]
    generalize (addFixtures _ rest).value.2 = answer
    cases answer with
    | error e => rfl
    | ok n => rfl

theorem addFixtures_of_ok (hs : s.store.IsFaithful)
    (hfs : fs.map (·.make s.routePrefix) = routes.map .ok) :
    ∃ store : Store, store.IsFaithful ∧ (s.addFixtures fs).value =
      ({ s with store := store, routes := s.routes ++ routes }, .ok fs.length) := by
  obtain ⟨store, hstore, hadd⟩ := addFixtures_append hs hfs []
  rw [List.append_nil] at hadd
  refine ⟨store, hstore, hadd.trans ?_⟩
  show (_, Except.ok (0 + fs.length)) = _
  rw [Nat.zero_add]
  rfl

theorem addFixtures_of_error (hs : s.store.IsFaithful)
    (hfs : fs.map (·.make s.routePrefix) = routes.map .ok) {f : Fixture} {e : PatternError}
    (hf : f.make s.routePrefix = .error e) (rest : List Fixture) :
    ∃ store : Store, store.IsFaithful ∧ (s.addFixtures (fs ++ f :: rest)).value =
      ({ s with store := store, routes := s.routes ++ routes }, .error e) := by
  obtain ⟨store, hstore, hadd⟩ := addFixtures_append hs hfs (f :: rest)
  have hrefused := addRoute_of_error
    (s := { s with store := store, routes := s.routes ++ routes }) hstore hf
  change (addRoute _ f.path f.method f.handler).value = _ at hrefused
  dsimp only at hadd
  rw [addFixtures, Traced.value_bind, hrefused] at hadd
  exact ⟨store.miss, hstore.miss, hadd⟩

/-- Either all fixtures make routes, or there is a first one that does not. -/
theorem make_all_or_first (routePrefix : String) (fs : List Fixture) :
    (∃ routes : List Route, fs.map (·.make routePrefix) = routes.map .ok) ∨
      ∃ before f after, ∃ routes : List Route, ∃ e, fs = before ++ f :: after ∧
        before.map (·.make routePrefix) = routes.map .ok ∧ f.make routePrefix = .error e := by
  induction fs with
  | nil => exact .inl ⟨[], rfl⟩
  | cons f fs ih =>
    cases hf : f.make routePrefix with
    | error e => exact .inr ⟨[], f, fs, [], e, rfl, rfl, hf⟩
    | ok route =>
      rcases ih with ⟨routes, hroutes⟩ | ⟨before, g, after, routes, e, rfl, hroutes, hg⟩
      · exact .inl ⟨route :: routes, by rw [List.map_cons, List.map_cons, hf, hroutes]⟩
      · exact .inr ⟨f :: before, g, after, route :: routes, e, rfl,
          by rw [List.map_cons, List.map_cons, hf, hroutes], hg⟩

end AddFixtures

/-! ## Histories -/

/-- What changes the routes of a server, and what else may be set in between. -/
inductive RouteCall where
  | route (r : Registration)
  | fixtures (fs : List Fixture)
  | set (fallback : Option Driver) (latency : Latency)

/-- The routes of the registrations that succeed in a call: of a list of fixtures, those before the
first one whose template does not compile. -/
def RouteCall.made (routePrefix : String) : RouteCall → List Route
  | route r => (r.make routePrefix).toOption.toList
  | fixtures fs => ((fs.map (·.make routePrefix)).takeWhile (·.isOk)).filterMap (·.toOption)
  | set _ _ => []

def perform (s : Server) : RouteCall → Server
  | .route r => (s.addRoute r.path r.method r.handler).value.1
  | .fixtures fs => (s.addFixtures fs).value.1
  | .set fallback latency => { s with fallback := fallback, latency := latency }

def after (s : Server) (calls : List RouteCall) : Server := calls.foldl perform s

theorem made_of_ok {routePrefix : String} {fs : List Fixture} {routes : List Route}
    (hfs : fs.map (·.make routePrefix) = routes.map .ok) (rest : List Fixture)
    (hrest : (rest.map (·.make routePrefix)).takeWhile (·.isOk) = []) :
    (RouteCall.fixtures (fs ++ rest)).made routePrefix = routes := by
  have hok : ∀ made ∈ routes.map (@Except.ok PatternError Route), made.isOk = true := by
    intro made hmade
    obtain ⟨route, -, rfl⟩ := List.mem_map.mp hmade
    rfl
  rw [RouteCall.made, List.map_append, hfs, List.takeWhile_append_of_pos hok, hrest,
    List.append_nil, List.filterMap_map]
  exact List.filterMap_some

/-- A call adds the routes of the registrations that succeed, and keeps those that are there. -/
theorem perform_spec {s : Server} (hs : s.store.IsFaithful) (call : RouteCall) :
    (s.perform call).store.IsFaithful ∧ (s.perform call).routePrefix = s.routePrefix ∧
      (s.perform call).routes = s.routes ++ call.made s.routePrefix := by
  cases call with
  | route r =>
    rw [perform, RouteCall.made]
    cases hr : r.make s.routePrefix with
    | ok route =>
      obtain ⟨store, hstore, hadd⟩ := addRoute_of_ok hs hr
      rw [hadd]
      exact ⟨hstore, rfl, rfl⟩
    | error e =>
      rw [addRoute_of_error hs hr]
      exact ⟨hs.miss, rfl, (List.append_nil _).symm⟩
  | fixtures fs =>
    rw [perform]
    rcases make_all_or_first s.routePrefix fs with
      ⟨routes, hroutes⟩ | ⟨before, f, after, routes, e, rfl, hroutes, hf⟩
    · obtain ⟨store, hstore, hadd⟩ := addFixtures_of_ok hs hroutes
      have hmade := made_of_ok hroutes [] rfl
      rw [List.append_nil] at hmade
      rw [hadd, hmade]
      exact ⟨hstore, rfl, rfl⟩
    · obtain ⟨store, hstore, hadd⟩ := addFixtures_of_error hs hroutes hf after
      have hstop : ((f :: after).map (·.make s.routePrefix)).takeWhile (·.isOk) = [] := by
        rw [List.map_cons, hf]
        rfl
      rw [hadd, made_of_ok hroutes _ hstop]
      exact ⟨hstore, rfl, rfl⟩
  | set fallback latency => exact ⟨hs, rfl, (List.append_nil _).symm⟩

/-- The routes after some calls are those there were, and then those of the registrations that
succeeded, in the order of the calls. -/
theorem after_spec {s : Server} (hs : s.store.IsFaithful) (calls : List RouteCall) :
    (s.after calls).store.IsFaithful ∧ (s.after calls).routePrefix = s.routePrefix ∧
      (s.after calls).routes = s.routes ++ calls.flatMap (·.made s.routePrefix) := by
  induction calls generalizing s with
  | nil => exact ⟨hs, rfl, (List.append_nil _).symm⟩
  | cons call rest ih =>
    obtain ⟨hfaithful, hfront, hroutes⟩ := perform_spec hs call
    obtain ⟨hfaithful', hfront', hroutes'⟩ := ih hfaithful
    rw [hfront] at hfront' hroutes'
    rw [hroutes, List.append_assoc, ← List.flatMap_cons] at hroutes'
    exact ⟨hfaithful', hfront', hroutes'⟩

/-! ## The routes of a server -/

/-- What the registration of a single route does. -/
structure Registers (s : Server) (r : Registration) : Prop where
  /-- It is refused with the error of its template, and only for that. -/
  answer : (s.addRoute r.path r.method r.handler).value.2 = (r.make s.routePrefix).map fun _ => ()
  /-- If it is refused, only the misses of the store have changed, by one, and every request is
  dispatched as before. -/
  refused : ∀ s' e, (s.addRoute r.path r.method r.handler).value = (s', .error e) →
    s' = { s with store := { s.store with misses := s.store.misses + 1 } } ∧
      ∀ given, (s'.dispatch given).steps = (s.dispatch given).steps ∧
        (s'.dispatch given).value.2 = (s.dispatch given).value.2
  /-- If it succeeds, the store may have changed, and its route stands behind the others. -/
  added : ∀ route, r.make s.routePrefix = .ok route → ∃ store : Store,
    (s.addRoute r.path r.method r.handler).value.1 =
      { s with store := store, routes := s.routes ++ [route] }

/-- What the registration of a list of fixtures does. -/
structure RegistersAll (s : Server) (fs : List Fixture) : Prop where
  /-- It succeeds, with the number of the fixtures, if all their templates compile and only then. -/
  answer : (s.addFixtures fs).value.2 = .ok fs.length ↔
    ∀ f ∈ fs, ∃ route, f.make s.routePrefix = .ok route
  /-- Either all templates compile, and the routes of all fixtures stand behind the others, in
  their order; or the first template that does not compile tells why, and the routes of the fixtures
  before it stand behind the others. -/
  routes :
    (∃ routes : List Route, fs.map (·.make s.routePrefix) = routes.map .ok ∧
      ∃ store : Store, (s.addFixtures fs).value =
        ({ s with store := store, routes := s.routes ++ routes }, .ok fs.length)) ∨
    ∃ before f after, ∃ routes : List Route, ∃ e, fs = before ++ f :: after ∧
      before.map (·.make s.routePrefix) = routes.map .ok ∧ f.make s.routePrefix = .error e ∧
      ∃ store : Store, (s.addFixtures fs).value =
        ({ s with store := store, routes := s.routes ++ routes }, .error e)

theorem registers {s : Server} (hs : s.store.IsFaithful) (r : Registration) : s.Registers r where
  answer := by
    cases hr : r.make s.routePrefix with
    | ok route =>
      obtain ⟨store, -, hadd⟩ := addRoute_of_ok hs hr
      rw [hadd]
      rfl
    | error e =>
      rw [addRoute_of_error hs hr]
      rfl
  refused s' e h := by
    obtain rfl := eq_of_addRoute h
    exact ⟨rfl, dispatchAmid_indep _ _ s _⟩
  added route hr := by
    obtain ⟨store, -, hadd⟩ := addRoute_of_ok hs hr
    exact ⟨store, congrArg Prod.fst hadd⟩

theorem registersAll {s : Server} (hs : s.store.IsFaithful) (fs : List Fixture) :
    s.RegistersAll fs := by
  rcases make_all_or_first s.routePrefix fs with
    ⟨routes, hroutes⟩ | ⟨before, f, after, routes, e, rfl, hroutes, hf⟩
  · obtain ⟨store, -, hadd⟩ := addFixtures_of_ok hs hroutes
    refine ⟨iff_of_true (congrArg Prod.snd hadd) fun f hmem => ?_,
      .inl ⟨routes, hroutes, store, hadd⟩⟩
    have hmade := List.mem_map_of_mem (f := fun g => Fixture.make g s.routePrefix) hmem
    rw [hroutes] at hmade
    obtain ⟨route, -, hroute⟩ := List.mem_map.mp hmade
    exact ⟨route, hroute.symm⟩
  · obtain ⟨store, -, hadd⟩ := addFixtures_of_error hs hroutes hf after
    refine ⟨iff_of_false (by rw [hadd]; simp) fun hall => ?_,
      .inr ⟨before, f, after, routes, e, rfl, hroutes, hf, store, hadd⟩⟩
    obtain ⟨route, hroute⟩ := hall f (by simp)
    exact absurd (hf.symm.trans hroute) (by simp)

/-- After any calls, a registration that is refused leaves the server as it is but for a miss, a
list of fixtures goes up to the first that is refused, and the routes are those of the registrations
that succeeded, in the order of the calls, each of which keeps its number. -/
theorem registrations_kept (config : Config) (calls : List RouteCall) :
    let s := (new config).after calls
    (∀ r, s.Registers r) ∧ (∀ fs, s.RegistersAll fs) ∧
      s.routes = calls.flatMap (·.made config.server.routePrefix) ∧
      s.routeList =
        (calls.flatMap (·.made config.server.routePrefix)).map (fun r => (r.method, r.path)) ∧
      ∀ (later : List RouteCall) (n : Nat) (route : Route),
        s.routes[n]? = some route → (s.after later).routes[n]? = some route := by
  intro s
  obtain ⟨hfaithful, -, hroutes⟩ := after_spec (s := new config) (.new _) calls
  refine ⟨registers hfaithful, registersAll hfaithful, hroutes, congrArg (List.map _) hroutes, ?_⟩
  intro later n route hn
  obtain ⟨-, -, hlater⟩ := after_spec hfaithful later
  rw [hlater, List.getElem?_append_left (List.getElem?_eq_some_iff.mp hn).1]
  exact hn

/-- The second of three fixtures is refused. -/
example :
    let s := (new {}).after [.fixtures [{ path := "/a" }, { path := "/:b(\\q)" }, { path := "/c" }],
      .fixtures [{ path := "/d" }]]
    s.routeList = [(.get, "/a"), (.get, "/d")] ∧ s.store.misses = 3 := by
  decide +kernel

end MockHttp.Server
