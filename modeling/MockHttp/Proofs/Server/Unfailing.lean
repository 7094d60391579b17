import MockHttp.Proofs.Server.Outcomes
import MockHttp.Proofs.Server.Scan
import MockHttp.Proofs.Template.Alternatives

/-!
# Routes that cannot fail

A route can fail twice: when it is registered, if its path cannot be compiled, and when it is
compared with a url, if the search is given up. A path without groups does neither. Whatever
characters stand in it and in the prefix, they are escaped, so that the expression can be read; and
since the whole url must match, the expression has none of the features that limit a search.

Results:
1. `failed_mem_messages_iff`: a dispatch reports a failed route just when its scan is given up.
2. `addRoute_of_withoutGroups`: a path without groups can always be registered.
3. `matchUrl_of_withoutGroups`: a route without groups can be compared with every url.
4. `unfailing_of_withoutGroups`: registration and dispatch never fail for such routes.
-/

namespace MockHttp

open Http Template

/-! ## Messages -/

/-- The messages of the events that are logged, those of drivers that were handed over apart. -/
def Traced.messages {α : Type} (a : Traced Step α) : List String :=
  (a.steps.filterMap Step.ownEvent?).map (·.message)

namespace Traced

variable {α β : Type}

@[simp] theorem messages_pure (a : α) : (Pure.pure a : Traced Step α).messages = [] := rfl

@[simp] theorem messages_bind (a : Traced Step α) (f : α → Traced Step β) :
    (a >>= f).messages = a.messages ++ (f a.value).messages := by
  simp only [messages, steps_bind, List.filterMap_append, List.map_append]

@[simp] theorem messages_emit (level : Log.Level) (origin : Log.Origin) (message : String)
    (fields : List (String × Log.FieldValue)) :
    (Step.emit level origin message fields).messages = [message] := rfl

@[simp] theorem messages_handle (route : Nat) (request : Request) :
    (step (Step.handle route request)).messages = [] := rfl

@[simp] theorem messages_fallback (request : Request) :
    (step (Step.fallback request)).messages = [] := rfl

@[simp] theorem messages_outside (a : Traced Step α) : (a.mapSteps Step.outside).messages = [] := by
  rw [messages, filterMap_ownEvent?_outside]
  rfl

/-- Of a part that only reports, it is said which messages are logged. -/
theorem Reports.notMem_messages {a : Traced Step α} {messages : List String}
    (h : a.Reports messages) {message : String} (hmessage : message ∉ messages) :
    message ∉ a.messages := by
  intro hmem
  obtain ⟨event, hevent, rfl⟩ := List.mem_map.mp hmem
  obtain ⟨step, hstep, heq⟩ := List.mem_filterMap.mp hevent
  cases step with
  | log event' =>
    obtain rfl := Option.some_inj.mp heq
    exact hmessage (h _ hstep)
  | _ => exact nomatch heq

end Traced

namespace Server

/-- What a dispatch logs where the pattern of a route could not be run to its end. -/
def failedRoute : String := "Route pattern failed to execute"

theorem failed_notMem_answer (others : Interference) (s : Server) (method : Method)
    (request : Request) (number : Nat) (route : Route) (found : RouteMatch) :
    failedRoute ∉ (s.answer others method request number route found).messages := by
  unfold answer await
  dsimp only
  generalize { request with routeMatch := some found } = answered
  have hpause : (s.pause others).messages = [] := by
    rw [Traced.messages, steps_pause]
    cases s.latency.isOff <;> rfl
  simp [(reports_opening s method request found).notMem_messages, hpause,
    (reports_conclude answered _ _).notMem_messages, (reports_closing answered _).notMem_messages,
    failedRoute, answering, concluding]

/-- A failed route is reported just when the scan is given up. -/
theorem failed_mem_messages_iff (s : Server) (given : Request) :
    failedRoute ∈ (s.dispatch given).messages ↔ ∃ route e, s.selection given = .gaveUp route e := by
  have hscan : failedRoute ∉ (choose (s.framed given) (given.method.getD s.method) false
      s.routes.zipIdx).messages := (reports_choose _ _ _ _).notMem_messages (by decide)
  have hselection : (choose (s.framed given) (given.method.getD s.method) false
      s.routes.zipIdx).value = s.selection given := rfl
  rw [dispatch, dispatchAmid, Traced.messages_bind, List.mem_append, or_iff_right hscan, hselection]
  cases s.selection given with
  | gaveUp route e => exact iff_of_true List.mem_cons_self ⟨route, e, rfl⟩
  | route number route found =>
    exact iff_of_false (failed_notMem_answer _ s _ _ number route found) (by simp)
  | otherMethod =>
    have hother : failedRoute ≠ "405 method not allowed" := by decide
    exact iff_of_false (by simpa [settle] using hother) (by simp)
  | nothing =>
    have hmissing : failedRoute ≠ "404 not found" := by decide
    have hdelegated : failedRoute ≠
      "No mock route matched, delegating to fallback driver" := by decide
    refine iff_of_false ?_ (by simp)
    rw [settle]
    cases s.fallback with
    | none => simpa using hmissing
    | some driver => simpa [await] using hdelegated

/-! ## Paths without groups -/

/-- A path without groups can always be registered. -/
theorem addRoute_of_withoutGroups (s : Server) (path : String) (method : Method)
    (handler : Handler) (h : WithoutGroups (s.routePrefix ++ path)) :
    ∃ s', (s.addRoute path method handler).value = (s', .ok ()) := by
  have hcompile : routeFlags.compile (s.routePrefix ++ path) = _ :=
    MatchFlags.compile_alone routeFlags h
  rw [addRoute_eq s ⟨path, method, handler⟩]
  dsimp only
  cases hfind : s.store.find? ⟨routeFlags, s.routePrefix ++ path⟩ with
  | some c =>
    rw [Store.compile_of_found hfind]
    exact ⟨_, rfl⟩
  | none =>
    rw [Store.compile_of_ok hfind hcompile]
    exact ⟨_, rfl⟩

/-- A route whose path has no groups can be compared with every url. -/
theorem matchUrl_of_withoutGroups {route : Route} (h : WithoutGroups route.template)
    (hpattern : routeFlags.compile route.template = .ok route.pattern) (url : String) :
    ∃ found, route.matchUrl url = .ok found := by
  have hcompile := MatchFlags.compile_alone routeFlags h
  obtain ⟨found, hfound⟩ : ∃ found, (routeFlags.routes [route.template]).evaluate url = .ok found :=
    MatchFlags.exists_evaluate rfl (List.forall_mem_singleton.mpr h) url
  rw [MatchFlags.evaluate_singleton routeFlags h] at hfound
  rw [Route.matchUrl, Except.ok.inj (hpattern.symm.trans hcompile)]
  exact ⟨found, hfound⟩

/-- Nothing goes wrong with paths that have no groups. In whatever state a server is, such a path
can be registered for any method. And a server all of whose routes have such paths can compare them
with every url: no scan is given up, and no dispatch reports a failed route. -/
theorem unfailing_of_withoutGroups :
    (∀ (s : Server) (path : String) (method : Method) (handler : Handler),
      WithoutGroups (s.routePrefix ++ path) →
      ∃ s', (s.addRoute path method handler).value = (s', .ok ())) ∧
    ∀ (config : Config) (rs : List Registration) (s : Server), Reached config rs s →
      (∀ route ∈ s.routes, WithoutGroups route.template) →
      (∀ route ∈ s.routes, ∀ url, ∃ found, route.matchUrl url = .ok found) ∧
      ∀ given, (∀ route e, s.selection given ≠ .gaveUp route e) ∧
        failedRoute ∉ (s.dispatch given).messages := by
  refine ⟨addRoute_of_withoutGroups, fun config rs s hs hgroups => ?_⟩
  have hmatch : ∀ route ∈ s.routes, ∀ url, ∃ found, route.matchUrl url = .ok found := by
    intro route hroute url
    obtain ⟨n, hn⟩ := List.mem_iff_getElem?.mp hroute
    obtain ⟨r, -, hof⟩ := hs.serves.exists_registration hn
    exact matchUrl_of_withoutGroups (hgroups route hroute) hof.pattern url
  have hscan : ∀ given route e, s.selection given ≠ .gaveUp route e := by
    intro given route e hgaveUp
    have hends := ends_selection s given
    rw [hgaveUp] at hends
    cases hends with
    | gaveUp hroute herror =>
      obtain ⟨found, hfound⟩ := hmatch route hroute (s.fullUrl given)
      exact absurd (hfound.symm.trans herror) (by simp)
  refine ⟨hmatch, fun given => ⟨hscan given, fun hfailed => ?_⟩⟩
  obtain ⟨route, e, hgaveUp⟩ := (failed_mem_messages_iff s given).mp hfailed
  exact hscan given route e hgaveUp

/-- Paths have a prefix that opens a group. -/
def oddConfig : Config := { server := { routePrefix := "/(v1.0" } }

/-- A path with characters that mean something in expressions. -/
def oddPath : String := "/a|b+[c]\x7B2\x7D^$/:x?/:y*-z"

/-- Such a path is registered, and no request makes its route fail. -/
theorem unfailing_oddPath :
    WithoutGroups ((Server.new oddConfig).routePrefix ++ oddPath) ∧
      ∃ s, ((Server.new oddConfig).addRoute oddPath .get fun _ d => (d, .finished)).value =
          (s, .ok ()) ∧
        ∀ given, failedRoute ∉ (s.dispatch given).messages := by
  have hpieces : (pieces ((Server.new oddConfig).routePrefix ++ oddPath).toList).all
      (fun piece => piece.body?.isNone) = true := by decide +kernel
  have hgroups : WithoutGroups ((Server.new oddConfig).routePrefix ++ oddPath) :=
    fun piece hpiece => Option.isNone_iff_eq_none.mp (List.all_eq_true.mp hpieces piece hpiece)
  obtain ⟨s, hs⟩ := unfailing_of_withoutGroups.1 (Server.new oddConfig) oddPath .get
    (fun _ d => (d, .finished)) hgroups
  have hreached := Reached.new.add ⟨oddPath, .get, fun _ d => (d, .finished)⟩ hs
  have htemplates : ∀ route ∈ s.routes, WithoutGroups route.template := by
    intro route hroute
    obtain ⟨n, hn⟩ := List.mem_iff_getElem?.mp hroute
    obtain ⟨r, hr, hof⟩ := hreached.serves.exists_registration hn
    rw [hof.template, List.mem_singleton.mp (List.mem_of_getElem? hr)]
    exact hgroups
  exact ⟨hgroups, s, hs, fun given =>
    ((unfailing_of_withoutGroups.2 _ _ s hreached htemplates).2 given).2⟩

end Server

end MockHttp
