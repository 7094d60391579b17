import MockHttp.Proofs.Server.Selection
import MockHttp.Proofs.Template.Splitting

/-!
# How a scan ends

A scan passes the routes that do not match or have another method, and ends at the first one that it
does not pass, or behind the last. `Scan.Ends` says so of the routes alone, whatever can be said
about those that the scan does not come to.

Results:
1. `ends_choose`: every scan ends in one of these ways.
2. `ends_selection`: the scan of a dispatch does.
3. `IsRouteOf.matchUrl_eq_evaluate`: a route matches a url just as its path does.
-/

namespace MockHttp.Server

open Http Template

/-- The scan goes on behind the route: it does not match, or has another method. -/
def Route.IsPassed (route : Route) (url : String) (method : Method) : Prop :=
  route.matchUrl url = .ok none ∨
    route.method ≠ method ∧ ∃ found, route.matchUrl url = .ok (some found)

/-- The ways for a scan to end. -/
inductive Scan.Ends (routes : List Route) (url : String) (method : Method) : Selection → Prop
  /-- At a route that matches and has the method. -/
  | route {n : Nat} {route : Route} {found : RouteMatch} :
    routes[n]? = some route → route.method = method → route.matchUrl url = .ok (some found) →
    (∀ i < n, ∀ earlier, routes[i]? = some earlier → earlier.IsPassed url method) →
    Ends routes url method (.route n route found)
  /-- Behind all routes, one of which matches. -/
  | otherMethod {route : Route} {found : RouteMatch} :
    (∀ route ∈ routes, route.IsPassed url method) →
    route ∈ routes → route.matchUrl url = .ok (some found) →
    Ends routes url method .otherMethod
  /-- Behind all routes, none of which matches. -/
  | nothing :
    (∀ route ∈ routes, route.matchUrl url = .ok none) → Ends routes url method .nothing
  /-- At a route that cannot be compared with the url. -/
  | gaveUp {route : Route} {e : PatternError} :
    route ∈ routes → route.matchUrl url = .error e → Ends routes url method (.gaveUp route e)

/-- A scan ends so if the routes before it have been passed, and `seen` tells whether one of them
matches. -/
theorem ends_choose (request : Request) (method : Method) {seen : Bool} (before rest : List Route)
    (hpassed : ∀ route ∈ before, route.IsPassed request.url method)
    (hseen : seen = true ↔
      ∃ route ∈ before, ∃ found, route.matchUrl request.url = .ok (some found)) :
    Scan.Ends (before ++ rest) request.url method
      (choose request method seen (rest.zipIdx before.length)).value := by
  induction rest generalizing before seen with
  | nil =>
    rw [List.append_nil, List.zipIdx_nil, choose]
    cases seen with
    | true =>
      obtain ⟨route, hroute, found, hfound⟩ := hseen.mp rfl
      exact .otherMethod hpassed hroute hfound
    | false =>
      refine .nothing fun route hroute => (hpassed route hroute).resolve_right ?_
      rintro ⟨-, found, hfound⟩
      exact absurd (hseen.mpr ⟨route, hroute, found, hfound⟩) (by simp)
  | cons route rest ih =>
    have hmem : route ∈ before ++ route :: rest := List.mem_append_right _ List.mem_cons_self
    -- a route that is passed joins those before
    have hnext {seen : Bool} (hroute : route.IsPassed request.url method)
        (hseen : seen = true ↔ ∃ r ∈ before ++ [route], ∃ found,
          r.matchUrl request.url = .ok (some found)) :
        Scan.Ends (before ++ route :: rest) request.url method
          (choose request method seen (rest.zipIdx (before.length + 1))).value := by
      have hrest := ih (before ++ [route]) (fun r hr => (List.mem_append.mp hr).elim (hpassed r)
        fun hr => List.mem_singleton.mp hr ▸ hroute) hseen
      rwa [List.append_assoc, List.length_append] at hrest
    rw [List.zipIdx_cons, choose]
    cases hmatch : route.matchUrl request.url with
    | error e => exact .gaveUp hmem hmatch
    | ok answer =>
      cases answer with
      | none =>
        refine hnext (.inl hmatch) (hseen.trans ?_)
        simp [or_and_right, exists_or, hmatch]
      | some found =>
        dsimp only
        split
        · next hmethod =>
          refine .route (by simp) hmethod hmatch fun i hi earlier hearlier => ?_
          rw [List.getElem?_append_left hi] at hearlier
          exact hpassed earlier (List.mem_of_getElem? hearlier)
        · next hmethod =>
          refine hnext (.inr ⟨hmethod, found, hmatch⟩) (iff_of_true rfl ?_)
          exact ⟨route, List.mem_append_right _ List.mem_cons_self, found, hmatch⟩

/-- What the scan of the routes for a request ends with. -/
def selection (s : Server) (given : Request) : Selection :=
  (choose (s.framed given) (given.method.getD s.method) false s.routes.zipIdx).value

/-- The scan of a dispatch ends in one of these ways. -/
theorem ends_selection (s : Server) (given : Request) :
    Scan.Ends s.routes (s.fullUrl given) (given.method.getD s.method) (s.selection given) :=
  ends_choose (s.framed given) _ [] s.routes (by simp) (by simp)

/-- Of a server with the settings of a configuration, the scan decides what follows. -/
theorem Serves.follows {config : Config} {rs : List Registration} {s : Server}
    (hs : Serves config rs s) (given : Request) :
    s.Follows given (seenBy config given) (s.selection given) :=
  dispatch_follows hs given (by rw [selection, framed_eq hs.baseUrl hs.method, hs.method])

/-- A route matches a url just as its path does, to be matched as it stands. -/
theorem IsRouteOf.matchUrl_eq_evaluate {config : Config} {r : Registration} {route : Route}
    (h : IsRouteOf config r route) (url : String) :
    route.matchUrl url = (exactly (config.server.routePrefix ++ r.path)).evaluate url := by
  have hcompile : (Source.template (config.server.routePrefix ++ r.path).toList).compile
      routeFlags.options = .ok route.pattern := by
    rw [← h.template]
    exact h.pattern
  rw [Route.matchUrl, h.template]
  exact (firstMatch_singleton hcompile url true).symm

end MockHttp.Server
