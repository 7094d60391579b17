import MockHttp.Proofs.Server.Selection

/-!
# What a dispatch leaves alone

A server answers a request by steps of its own, which log events and let time pass, and by calling
at most one of the handlers and the fallback. It holds the same routes, store and settings in every
branch, so whatever becomes of it while it answers is the work of others: of the one that is called,
or of those who run while it waits. Where nobody keeps a state, requests have no influence on each
other.

Results:
1. `of_choose_eq_route`: what the route that a scan ends with is like.
2. `framed_answer`, `framed_dispatchAmid`: who is called, with what, and that every change of the
   server is one that others make.
3. `dispatchAmid_eq_dispatch`: the steps and the outcome do not depend on what others do to the
   server.
4. `dispatch_frames`: what the one that is called gets, and what the server is afterwards.
-/

namespace MockHttp

open Http Template

/-! ## What is done besides -/

/-- The step logs an event or lets time pass. -/
def Step.isIdle : Step → Bool
  | log _ | wait _ => true
  | _ => false

def Traced.deeds {α : Type} (a : Traced Step α) : List Step := a.steps.filter fun s => !s.isIdle

namespace Traced

variable {α β : Type}

@[simp] theorem deeds_pure (a : α) : (Pure.pure a : Traced Step α).deeds = [] := rfl

@[simp] theorem deeds_bind (a : Traced Step α) (f : α → Traced Step β) :
    (a >>= f).deeds = a.deeds ++ (f a.value).deeds := by
  simp only [deeds, steps_bind, List.filter_append]

@[simp] theorem deeds_emit (level : Log.Level) (origin : Log.Origin) (message : String)
    (fields : List (String × Log.FieldValue)) :
    (Step.emit level origin message fields).deeds = [] := rfl

@[simp] theorem deeds_outside (a : Traced Step α) :
    (a.mapSteps Step.outside).deeds = a.steps.map Step.outside :=
  List.filter_eq_self.mpr fun _ hstep => by
    obtain ⟨step, -, rfl⟩ := List.mem_map.mp hstep
    rfl

/-- Calls are not idle. -/
theorem calls_eq_filter_deeds (a : Traced Step α) : a.calls = a.deeds.filter Step.isCall := by
  rw [calls, deeds, List.filter_filter]
  refine List.filter_congr fun step _ => ?_
  cases step <;> rfl

theorem Reports.deeds {a : Traced Step α} {messages : List String} (h : a.Reports messages) :
    a.deeds = [] := h.filter_eq_nil fun _ => rfl

end Traced

/-! ## What others do to a server -/

/-- The server waits for the step: time passes, or somebody is called. -/
def Step.isAwaited : Step → Bool
  | wait _ | handle _ _ | fallback _ => true
  | _ => false

namespace Server

/-- What others make of a server at those of some steps for which it waits, in their order. -/
def amid (others : Interference) (s : Server) (steps : List Step) : Server :=
  (steps.filter Step.isAwaited).foldl (fun s step => others step s) s

section Amid

variable (others : Interference) (s : Server)

theorem amid_append (steps more : List Step) :
    s.amid others (steps ++ more) = (s.amid others steps).amid others more := by
  rw [amid, List.filter_append, List.foldl_append]
  rfl

theorem amid_of_reports {α : Type} {a : Traced Step α} {messages : List String}
    (h : a.Reports messages) : s.amid others a.steps = s := by
  rw [amid, h.filter_eq_nil fun _ => rfl]
  rfl

theorem amid_outside {α : Type} (a : Traced Step α) :
    s.amid others (a.mapSteps Step.outside).steps = s := by
  rw [amid, a.filter_outside_eq_nil fun _ => rfl]
  rfl

/-- Where nobody else does anything, nothing becomes of the server. -/
theorem amid_alone (steps : List Step) : s.amid (fun _ s => s) steps = s :=
  List.foldl_fixed' (fun _ => rfl) _

/-- A server that pauses is what others make of it in the meantime. -/
theorem value_pause : (s.pause others).value = s.amid others (s.pause others).steps := by
  unfold pause await
  cases s.latency.isOff <;> rfl

/-- A server that awaits a call is what others make of it in the meantime. -/
theorem value_await {step : Step} (h : step.isAwaited = true) :
    (s.await others step).value = s.amid others (s.await others step).steps := by
  have hsteps : (s.await others step).steps = [step] := rfl
  rw [hsteps, amid, List.filter_cons_of_pos h]
  rfl

end Amid

/-! ## The one that is called -/

/-- The route that a scan ends with is one of those scanned; it has the method, and the match is its
own. -/
theorem of_choose_eq_route {request : Request} {method : Method} {seen : Bool}
    {routes : List Route} {k n : Nat} {route : Route} {found : RouteMatch}
    (h : (choose request method seen (routes.zipIdx k)).value = .route n route found) :
    ∃ i, n = k + i ∧ routes[i]? = some route ∧ route.method = method ∧
      route.matchUrl request.url = .ok (some found) := by
  induction routes generalizing seen k with
  | nil =>
    cases seen with
    | false => exact absurd h (by simp [choose])
    | true => exact absurd h (by simp [choose])
  | cons head rest ih =>
    have hrest {seen : Bool}
        (h : (choose request method seen (rest.zipIdx (k + 1))).value = .route n route found) :
        ∃ i, n = k + i ∧ (head :: rest)[i]? = some route ∧ route.method = method ∧
          route.matchUrl request.url = .ok (some found) := by
      obtain ⟨i, rfl, hroute⟩ := ih h
      exact ⟨i + 1, by omega, hroute⟩
    rw [List.zipIdx_cons] at h
    unfold choose at h
    split at h
    · exact absurd h (by simp)
    · exact hrest h
    · next hmatch =>
      split at h
      · next hmethod =>
        obtain ⟨rfl, rfl, rfl⟩ := Selection.route.inj h
        exact ⟨0, rfl, rfl, hmethod, hmatch⟩
      · exact hrest h

/-- The request as a route that matches it gets it: its url is the effective base and the url of the
given request, its method is there, and it has the match. All else is as it was given. -/
def asked (s : Server) (given : Request) (found : RouteMatch) : Request :=
  { given with
    url := (match given.baseUrl with
      | some base => if base = "" then s.baseUrl else base
      | none => s.baseUrl) ++ given.url
    method := some (given.method.getD s.method)
    routeMatch := some found }

/-- What is done while a server answers a request, besides logging events and waiting, and what
comes of it. -/
inductive Calls (s : Server) (given : Request) : List Step → Outcome → Prop
  /-- Nobody is called: no route answers and there is no fallback, or another method would be
  needed, or a route could not be compared with the url. -/
  | nobody {outcome : Outcome} :
    outcome = .error .notFound ∨ outcome = .error .methodNotAllowed ∨
      (∃ message, outcome = .error (.handler message)) →
    Calls s given [] outcome
  /-- The handler of a route that has the method and matches. -/
  | handler {n : Nat} {route : Route} {found : RouteMatch} :
    s.routes[n]? = some route → route.method = given.method.getD s.method →
    route.matchUrl (s.asked given found).url = .ok (some found) →
    Calls s given [.handle n (s.asked given found)]
      (conclude (s.asked given found) (route.handler (s.asked given found) {}).1
        (route.handler (s.asked given found) {}).2).value
  /-- The fallback, with the request as it was given. The rest is its own doing. -/
  | fallback {driver : Driver} :
    s.fallback = some driver →
    Calls s given (.fallback given :: (driver given).steps.map .outside) (driver given).value

/-! ## Frames -/

/-- Nobody is called but as `Calls` says, and the server afterwards is what others made of it. -/
structure IsFramed (others : Interference) (s : Server) (given : Request)
    (a : Traced Step (Server × Outcome)) : Prop where
  calls : Calls s given a.deeds a.value.2
  server : a.value.1 = s.amid others a.steps

section Frames

variable {others : Interference} {s : Server} {given : Request}

theorem asked_eq (s : Server) (given : Request) (found : RouteMatch) :
    { s.framed given with routeMatch := some found } = s.asked given found := by
  unfold framed fullUrl asked
  cases given.baseUrl with
  | none => rfl
  | some base => simp [String.isEmpty_iff]

theorem IsFramed.of_reports {α : Type} {a : Traced Step α} {messages : List String}
    {f : α → Traced Step (Server × Outcome)} (ha : a.Reports messages)
    (hf : IsFramed others s given (f a.value)) : IsFramed others s given (a >>= f) := by
  constructor
  · rw [Traced.deeds_bind, ha.deeds, List.nil_append, Traced.value_bind]
    exact hf.calls
  · rw [Traced.value_bind, Traced.steps_bind, amid_append, amid_of_reports others s ha]
    exact hf.server

/-- A route that is asked calls its handler, and leaves the server to others before and during the
call only. -/
theorem framed_answer {n : Nat} {route : Route} {found : RouteMatch}
    (hroute : s.routes[n]? = some route) (hmethod : route.method = given.method.getD s.method)
    (hmatch : route.matchUrl (s.asked given found).url = .ok (some found)) (method : Method) :
    IsFramed others s given (s.answer others method (s.framed given) n route found) := by
  unfold answer
  refine .of_reports (reports_opening _ _ _ _) ?_
  dsimp only
  rw [asked_eq]
  have hpause : (s.pause others).deeds = [] := by
    rw [Traced.deeds, steps_pause]
    cases s.latency.isOff <;> rfl
  have hconclude := reports_conclude (s.asked given found)
    (route.handler (s.asked given found) {}).1 (route.handler (s.asked given found) {}).2
  constructor
  · simp only [Traced.deeds_bind, Traced.deeds_pure, Traced.value_bind, Traced.value_pure, hpause,
      hconclude.deeds, (reports_closing _ _).deeds, List.nil_append, List.append_nil]
    exact .handler hroute hmethod hmatch
  · simp only [Traced.value_bind, Traced.value_pure, Traced.steps_bind, amid_append,
      ← value_pause, value_await others _ (rfl : (Step.handle n _).isAwaited = true),
      amid_of_reports others _ hconclude, amid_of_reports others _ (reports_closing _ _)]
    rfl

/-- A fallback that is called gets the request as it came, and the server is left to it. -/
theorem framed_fallback {driver : Driver} (hfallback : s.fallback = some driver) :
    IsFramed others s given (do
      let s ← s.await others (.fallback given)
      let outcome ← (driver given).mapSteps .outside
      return (s, outcome)) := by
  have hcall : (s.await others (.fallback given)).deeds = [.fallback given] := rfl
  constructor
  · simp only [Traced.deeds_bind, Traced.deeds_pure, Traced.deeds_outside, Traced.value_bind,
      Traced.value_pure, hcall, List.append_nil]
    exact .fallback hfallback
  · simp only [Traced.value_bind, Traced.value_pure, Traced.steps_bind, amid_append,
      ← value_await others _ (rfl : (Step.fallback given).isAwaited = true), amid_outside]
    rfl

/-- Every branch of a dispatch hands on the server as it is. -/
theorem framed_dispatchAmid (others : Interference) (s : Server) (given : Request) :
    IsFramed others s given (s.dispatchAmid others given) := by
  unfold dispatchAmid
  refine .of_reports (reports_choose _ _ _ _) ?_
  cases hchoose : (choose (s.framed given) (given.method.getD s.method) false
      s.routes.zipIdx).value with
  | route n route found =>
    obtain ⟨i, rfl, hroute, hmethod, hmatch⟩ := of_choose_eq_route hchoose
    rw [Nat.zero_add]
    exact framed_answer hroute hmethod (by rw [← asked_eq]; exact hmatch) _
  | otherMethod => exact ⟨.nobody (.inr (.inl rfl)), rfl⟩
  | gaveUp route e => exact ⟨.nobody (.inr (.inr ⟨_, rfl⟩)), rfl⟩
  | nothing =>
    rw [settle]
    split
    · next driver hfallback =>
      exact .of_reports (Traced.reports_emit.mpr (List.mem_singleton_self _))
        (framed_fallback hfallback)
    · exact ⟨.nobody (.inl rfl), rfl⟩

end Frames

/-! ## What has no part in an outcome -/

section Indep

variable (others others' : Interference) (s : Server) (store : Store)

theorem answer_indep (method : Method) (request : Request) (n : Nat) (route : Route)
    (found : RouteMatch) :
    let t := { s with store := store }
    (t.answer others method request n route found).steps =
        (s.answer others' method request n route found).steps ∧
      (t.answer others method request n route found).value.2 =
        (s.answer others' method request n route found).value.2 := by
  intro t
  unfold answer
  simp only [Traced.steps_bind, Traced.value_bind, steps_pause]
  exact ⟨rfl, rfl⟩

/-- Whatever others do to the server while it answers, and whatever there is in its store, it takes
the same steps, and the outcome is the same. -/
theorem dispatchAmid_indep (given : Request) :
    let t := { s with store := store }
    (t.dispatchAmid others given).steps = (s.dispatchAmid others' given).steps ∧
      (t.dispatchAmid others given).value.2 = (s.dispatchAmid others' given).value.2 := by
  intro t
  have hsettle (selection : Selection) :
      (settle others t given selection).steps = (settle others' s given selection).steps ∧
        (settle others t given selection).value.2 = (settle others' s given selection).value.2 := by
    cases selection with
    | route n route found => exact answer_indep others others' s store _ _ n route found
    | otherMethod => exact ⟨rfl, rfl⟩
    | gaveUp route e => exact ⟨rfl, rfl⟩
    | nothing =>
      simp only [settle, t]
      cases s.fallback with
      | none => exact ⟨rfl, rfl⟩
      | some driver => exact ⟨rfl, rfl⟩
  obtain ⟨hsteps, hvalue⟩ := hsettle (choose (s.framed given) (given.method.getD s.method) false
    s.routes.zipIdx).value
  exact ⟨congrArg (_ ++ ·) hsteps, hvalue⟩

end Indep

theorem dispatchAmid_eq_dispatch (others : Interference) (s : Server) (given : Request) :
    s.dispatchAmid others given =
      ⟨(s.amid others (s.dispatch given).steps, (s.dispatch given).value.2),
        (s.dispatch given).steps⟩ := by
  obtain ⟨hsteps, hvalue⟩ : (s.dispatchAmid others given).steps = (s.dispatch given).steps ∧
      (s.dispatchAmid others given).value.2 = (s.dispatch given).value.2 :=
    dispatchAmid_indep others _ s s.store given
  have hserver := (framed_dispatchAmid others s given).server
  rw [hsteps] at hserver
  rw [← hserver, ← hvalue, ← hsteps]

theorem calls_dispatch (s : Server) (given : Request) :
    Calls s given (s.dispatch given).deeds (s.dispatch given).value.2 :=
  (framed_dispatchAmid _ s given).calls

/-! ## One request after the other -/

theorem server_dispatch (s : Server) (given : Request) : (s.dispatch given).value.1 = s :=
  (framed_dispatchAmid _ s given).server.trans (amid_alone s _)

/-- The server and the outcomes after some requests, one after the other. -/
def dispatchAll (s : Server) : List Request → Traced Step (Server × List Outcome)
  | [] => return (s, [])
  | given :: rest => do
    let (s, outcome) ← s.dispatch given
    let (s, outcomes) ← s.dispatchAll rest
    return (s, outcome :: outcomes)

theorem dispatchAll_value (s : Server) (requests : List Request) :
    (s.dispatchAll requests).value =
      (s, requests.map fun given => (s.dispatch given).value.2) := by
  induction requests with
  | nil => rfl
  | cons given rest ih =>
    simp only [dispatchAll, Traced.value_bind, Traced.value_pure, server_dispatch, ih,
      List.map_cons]

/-- What the one that is called gets, and what the server is afterwards. A handler that is called
gets the request with the url after the effective base, with the effective method and with the match
of its route; the fallback gets the request as it was given; besides, events are logged and time
passes, and nothing else is done. Whatever others make of the server while it waits, the steps and
the outcome are the same, and the server afterwards (its routes, its fallback, its latency, its
store with the counters) is what those others have made of it, each at the step that was waited for.
Where nobody does anything to it, it is as it was, and the outcomes of any requests one after the
other are those that each of them has alone. -/
theorem dispatch_frames (s : Server) (given : Request) :
    Calls s given (s.dispatch given).deeds (s.dispatch given).value.2 ∧
      (∀ others : Interference,
        (s.dispatchAmid others given).steps = (s.dispatch given).steps ∧
          (s.dispatchAmid others given).value =
            (s.amid others (s.dispatch given).steps, (s.dispatch given).value.2)) ∧
      (s.dispatch given).value.1 = s ∧
      ∀ requests : List Request,
        (s.dispatchAll requests).value =
          (s, requests.map fun given => (s.dispatch given).value.2) := by
  refine ⟨calls_dispatch s given, fun others => ?_, server_dispatch s given, dispatchAll_value s⟩
  rw [dispatchAmid_eq_dispatch]
  exact ⟨rfl, rfl⟩

end Server

end MockHttp
