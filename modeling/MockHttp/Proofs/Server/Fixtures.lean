import MockHttp.Proofs.Members
import MockHttp.Proofs.Server.Outcomes
import MockHttp.Proofs.Server.Scan
import MockHttp.Server.FixtureList

/-!
# A server answers as its list of fixtures says

A server that has the routes of a list of fixtures, and no others, answers from the list alone: the
first fixture that matches the url and has the method lays down status, headers and body, and the
content type that results decides how the body is read.

Results:
1. `isSorted_of_parseList`: the headers of a fixture that was read are in order.
2. `reached_addFixtures`: a list that is added without error is a list of registrations.
3. `Draft.isAnswered_send`: how a draft is sent.
4. `Fixture.handler_eq`: what a fixture writes is laid down in it.
5. `dispatch_fixtures`: how a request is answered from a list of fixtures.
-/

namespace MockHttp.Server

open Http Template

/-! ## Lists of fixtures -/

theorem isSorted_of_headers? {d : Yaml.Document} {n : Yaml.Node} {headers : List (String × String)}
    (h : headers? d n = some headers) : IsSorted headers := by
  unfold headers? at h
  obtain ⟨members, -, h⟩ := Option.bind_eq_some_iff.mp h
  obtain ⟨pairs, -, h⟩ := Option.bind_eq_some_iff.mp h
  obtain rfl := Option.some_inj.mp h
  exact isSorted_sortMembers

/-- The headers of a fixture that was read are in order. -/
theorem isSorted_of_read? {d : Yaml.Document} {n : Yaml.Node} {f : Fixture}
    (h : Fixture.read? d n = some f) : IsSorted f.headers := by
  simp only [Fixture.read?, Option.bind_eq_bind, Option.bind_eq_some_iff] at h
  obtain ⟨fields, -, path, -, method, -, status, -, headers, hheaders, json, -, body, -, echo, -, h⟩
    := h
  obtain rfl := Option.some_inj.mp h
  unfold Config.field at hheaders
  split at hheaders
  · exact isSorted_of_headers? hheaders
  · obtain rfl := Option.some_inj.mp hheaders
    exact .nil

theorem exists_of_mem_mapM {α β : Type} {read : α → Option β} {items : List α} {found : List β}
    (h : items.mapM read = some found) {b : β} (hb : b ∈ found) :
    ∃ a ∈ items, read a = some b := by
  induction items generalizing found with
  | nil =>
    obtain rfl := Option.some_inj.mp h
    exact absurd hb List.not_mem_nil
  | cons item items ih =>
    simp only [List.mapM_cons, Option.bind_eq_bind, Option.bind_eq_some_iff] at h
    obtain ⟨first, hfirst, rest, hrest, h⟩ := h
    obtain rfl := Option.some_inj.mp h
    rcases List.mem_cons.mp hb with rfl | hb
    · exact ⟨item, List.mem_cons_self, hfirst⟩
    · obtain ⟨a, ha, hread⟩ := ih hrest hb
      exact ⟨a, List.mem_cons_of_mem _ ha, hread⟩

theorem isSorted_of_parseList {text : String} {fs : List Fixture}
    (h : Fixture.parseList? text = some fs) : ∀ f ∈ fs, IsSorted f.headers := by
  simp only [Fixture.parseList?, Option.bind_eq_bind, Option.bind_eq_some_iff] at h
  obtain ⟨d, -, nodes, -, h⟩ := h
  intro f hf
  obtain ⟨n, -, hread⟩ := exists_of_mem_mapM h hf
  exact isSorted_of_read? hread

def Fixture.registration (f : Fixture) : Registration := ⟨f.path, f.method, f.handler⟩

theorem fallback_addRoute {s s' : Server} {r : Registration} {answer : Except PatternError Unit}
    (h : (s.addRoute r.path r.method r.handler).value = (s', answer)) :
    s'.fallback = s.fallback := by
  rw [addRoute_eq] at h
  split at h
  · obtain ⟨rfl, -⟩ := Prod.mk.inj h
    rfl
  · obtain ⟨rfl, -⟩ := Prod.mk.inj h
    rfl

/-- Fixtures that are added without error are registered one after the other, and nothing else
changes who answers. -/
theorem reached_addFixtures {config : Config} {rs : List Registration} {s s' : Server}
    (hs : Reached config rs s) {fs : List Fixture} {count : Nat}
    (hadd : (s.addFixtures fs).value = (s', .ok count)) :
    Reached config (rs ++ fs.map Fixture.registration) s' ∧ count = fs.length ∧
      s'.fallback = s.fallback := by
  induction fs generalizing rs s count with
  | nil =>
    obtain ⟨rfl, hcount⟩ := Prod.mk.inj hadd
    rw [List.map_nil, List.append_nil]
    exact ⟨hs, (Except.ok.inj hcount).symm, rfl⟩
  | cons f rest ih =>
    rw [addFixtures, Traced.value_bind] at hadd
    cases hroute : (s.addRoute f.path f.method f.handler).value with
    | mk first answer =>
      rw [hroute] at hadd
      cases answer with
      | error e => exact absurd (Prod.mk.inj hadd).2 (by simp)
      | ok added =>
        rw [Traced.value_bind] at hadd
        cases hrest : (first.addFixtures rest).value with
        | mk last number =>
          rw [hrest] at hadd
          obtain ⟨rfl, hcount⟩ := Prod.mk.inj hadd
          cases number with
          | error e => exact absurd hcount (by simp [Except.map])
          | ok n =>
            obtain rfl : n + 1 = count := Except.ok.inj hcount
            obtain ⟨hreached, rfl, hfallback⟩ := ih (hs.add f.registration hroute) hrest
            rw [List.append_assoc] at hreached
            exact ⟨hreached, rfl, hfallback.trans (fallback_addRoute (r := f.registration) hroute)⟩

/-! ## How drafts are sent -/

namespace Draft

/-- The draft is sent with this payload: as a success below 400, and as a failure from there on. -/
def sent (d : Draft) (payload : Json) : Outcome :=
  if d.status < 400 then .ok ⟨d.status, statusText d.status, d.headers, payload⟩
  else .error ⟨.business, ⟨d.status, statusText d.status, d.headers, payload⟩⟩

/-- The outcome is what the draft says. -/
structure IsAnswered (d : Draft) (outcome : Outcome) : Prop where
  /-- A body that is not announced as JSON is sent as a string. -/
  plain : ¬d.AnnouncesJson → outcome = d.sent (.string d.body)
  /-- A blank body that is announced as JSON stands for an empty object. -/
  blank : d.AnnouncesJson → (∀ c ∈ d.body.toList, Text.isBlank c = true) →
    outcome = d.sent (.object [])
  /-- Any other body that is announced as JSON is sent as the value it is the text of. -/
  json : ∀ v, d.AnnouncesJson → (∃ c ∈ d.body.toList, Text.isBlank c = false) →
    Json.parse? d.body = some v → outcome = d.sent v
  /-- If it is the text of none, it is reported as it is, and the status does not matter. -/
  broken : d.IsBroken →
    outcome = .error ⟨.invalidBody, ⟨500, statusText 500, d.headers, .string d.body⟩⟩

theorem value_send_of_payload {d : Draft} {payload : Json} (h : d.payload? = some payload) :
    d.send.value = d.sent payload := by
  rw [send, h]
  show (if decide (d.status < 400) = true then Except.ok _ else Except.error _) = _
  simp only [decide_eq_true_eq]
  rfl

theorem isAnswered_send {d : Draft} (hd : d.headers.IsProper) : d.IsAnswered d.send.value where
  plain hplain := by
    have hjson : ¬d.isJson = true := fun h => hplain ((isJson_iff hd).mp h)
    exact value_send_of_payload (by rw [payload?, if_pos hjson])
  blank hannounced hblank := by
    have hjson : ¬¬d.isJson = true := not_not_intro ((isJson_iff hd).mpr hannounced)
    have hall : d.body.toList.all Text.isBlank = true := List.all_eq_true.mpr hblank
    exact value_send_of_payload (by rw [payload?, if_neg hjson, if_pos hall])
  json v hannounced hbody hparse := by
    have hjson : ¬¬d.isJson = true := not_not_intro ((isJson_iff hd).mpr hannounced)
    have hall : ¬d.body.toList.all Text.isBlank = true := by simpa using hbody
    exact value_send_of_payload (by rw [payload?, if_neg hjson, if_neg hall, hparse])
  broken hbroken := value_send_of_broken hd hbroken

end Draft

/-! ## What a fixture lays down -/

namespace Fixture

/-- What was asked: the parameters of the match, and what the request carries or null. -/
def echoed (found : RouteMatch) (given : Request) : Json :=
  .object [
    ("params", .object (found.paramsMap.map fun (name, value) => (name, .string value))),
    ("payload", given.payload.getD .null)]

/-- The text of the body: an echo comes before a JSON value, and that before a text. -/
def bodyText (f : Fixture) (found : RouteMatch) (given : Request) : String :=
  if f.echo then (echoed found given).compact
  else match f.json with
    | some value => value.compact
    | none => f.body.getD ""

/-- The headers that are set, one after the other: the media type of JSON where an echo or a JSON
value is the body, and those of the fixture by ascending name. -/
def settings (f : Fixture) : List (String × String) :=
  (if f.echo || f.json.isSome then [("content-type", "application/json")] else []) ++
    sortMembers f.headers

/-- The draft that is laid down for a request that the fixture matches. -/
def laidDown (f : Fixture) (found : RouteMatch) (given : Request) : Draft where
  status := f.status
  headers := ⟨Headers.overlaid f.settings⟩
  body := f.bodyText found given

/-- Headers that are set do not change the rest of a draft. -/
theorem foldl_setHeader (pairs : List (String × String)) (d : Draft) :
    pairs.foldl (fun d (name, value) => d.setHeader name value) d =
      { d with headers := pairs.foldl (fun h (name, value) => h.insert name value) d.headers } := by
  induction pairs generalizing d with
  | nil => rfl
  | cons pair pairs ih => exact ih (d.setHeader pair.1 pair.2)

/-- On a fresh draft a fixture writes what is laid down. -/
theorem handler_eq (f : Fixture) (hf : IsSorted f.headers) {request : Request}
    {found : RouteMatch} (hfound : request.routeMatch = some found) :
    f.handler request {} = (f.laidDown found request, .finished) := by
  have hheaders : Headers.mk (Headers.overlaid f.settings) = Headers.ofList f.settings := by
    rw [← Headers.entries_ofList]
  have hecho : echoOf request = echoed found request := by
    rw [echoOf, echoed, hfound]
    rfl
  rw [handler, writeHeaders, foldl_setHeader, laidDown, hheaders, settings, sortMembers_eq hf,
    Headers.ofList, List.foldl_append, writeBody, bodyText, hecho]
  -- the body is the echo, the JSON value, the text, or empty
  cases f.echo with
  | true => rfl
  | false =>
    cases f.json with
    | some value => rfl
    | none =>
      cases f.body with
      | some text => rfl
      | none => rfl

/-- The path of the fixture, behind the common prefix, matches the whole url of the request. -/
def Matches (config : Config) (given : Request) (f : Fixture) (found : RouteMatch) : Prop :=
  (exactly (config.server.routePrefix ++ f.path)).evaluate (urlOf config given) = .ok (some found)

/-- The fixture matches the request and has its method. -/
def Answers (config : Config) (given : Request) (f : Fixture) (found : RouteMatch) : Prop :=
  f.method = given.method.getD config.method ∧ f.Matches config given found

end Fixture

/-! ## Answers from the list -/

section Fixtures

variable {config : Config} {fs : List Fixture} {s : Server} {given : Request}

/-- A fixture stands behind every route. -/
theorem Serves.exists_fixture (hs : Serves config (fs.map Fixture.registration) s) {n : Nat}
    {route : Route} (hroute : s.routes[n]? = some route) :
    ∃ f, fs[n]? = some f ∧ IsRouteOf config f.registration route := by
  obtain ⟨r, hr, hof⟩ := hs.exists_registration hroute
  rw [List.getElem?_map] at hr
  obtain ⟨f, hf, rfl⟩ := Option.map_eq_some_iff.mp hr
  exact ⟨f, hf, hof⟩

/-- Every fixture has its route. -/
theorem Serves.exists_route (hs : Serves config (fs.map Fixture.registration) s) {n : Nat}
    {f : Fixture} (hf : fs[n]? = some f) :
    ∃ route, s.routes[n]? = some route ∧ IsRouteOf config f.registration route := by
  have hlt : n < s.routes.length := by
    rw [← hs.routes.length_eq, List.length_map]
    exact (List.getElem?_eq_some_iff.mp hf).1
  obtain ⟨f', hf', hof⟩ := hs.exists_fixture (List.getElem?_eq_getElem hlt)
  obtain rfl := Option.some_inj.mp (hf'.symm.trans hf)
  exact ⟨_, List.getElem?_eq_getElem hlt, hof⟩

/-- The route of a fixture matches the url of a request as the fixture does. -/
theorem Serves.matchUrl_iff (hs : Serves config (fs.map Fixture.registration) s) {f : Fixture}
    {route : Route} (hof : IsRouteOf config f.registration route) {found : RouteMatch} :
    route.matchUrl (s.fullUrl given) = .ok (some found) ↔ f.Matches config given found := by
  rw [hof.matchUrl_eq_evaluate, fullUrl_eq hs.baseUrl]
  rfl

/-- The scan does not pass the route of a fixture that answers. -/
theorem Serves.not_isPassed (hs : Serves config (fs.map Fixture.registration) s) {f : Fixture}
    {route : Route} (hof : IsRouteOf config f.registration route) {found : RouteMatch}
    (hf : f.Answers config given found) :
    ¬route.IsPassed (s.fullUrl given) (given.method.getD s.method) := by
  have hmatch := (hs.matchUrl_iff hof).mpr hf.2
  rintro (hnone | ⟨hother, -⟩)
  · exact absurd (hmatch.symm.trans hnone) (by simp)
  · exact hother (hof.method.trans (hs.method ▸ hf.1))

/-- A route that the scan ends with is that of a fixture that answers. -/
theorem Serves.answers (hs : Serves config (fs.map Fixture.registration) s) {f : Fixture}
    {route : Route} (hof : IsRouteOf config f.registration route) {found : RouteMatch}
    (hmethod : route.method = given.method.getD s.method)
    (hmatch : route.matchUrl (s.fullUrl given) = .ok (some found)) :
    f.Answers config given found :=
  ⟨hof.method.symm.trans (hs.method ▸ hmethod), (hs.matchUrl_iff hof).mp hmatch⟩

/-- The scan ends with the first fixture that answers, if it is not given up. -/
theorem Serves.selection_eq (hs : Serves config (fs.map Fixture.registration) s)
    (hscan : ∀ route e, s.selection given ≠ .gaveUp route e) {n : Nat} {f : Fixture}
    {found : RouteMatch} (hf : fs[n]? = some f) (hanswers : f.Answers config given found)
    (hfirst : ∀ i < n, ∀ earlier, fs[i]? = some earlier →
      ∀ found', ¬earlier.Answers config given found') :
    ∃ route, IsRouteOf config f.registration route ∧ s.selection given = .route n route found := by
  obtain ⟨route, hroute, hof⟩ := hs.exists_route hf
  have hstops := hs.not_isPassed hof hanswers
  have hends := ends_selection s given
  generalize s.selection given = selection at hscan hends ⊢
  cases hends with
  | @route m last found' hlast hmethod hmatch hpassed =>
    obtain ⟨f', hf', hof'⟩ := hs.exists_fixture hlast
    have hanswers' := hs.answers hof' hmethod hmatch
    -- neither of the two fixtures comes before the other
    obtain rfl : m = n := by
      rcases Nat.lt_trichotomy m n with hlt | heq | hlt
      · exact absurd hanswers' (hfirst m hlt f' hf' found')
      · exact heq
      · exact absurd (hpassed n hlt route hroute) hstops
    obtain rfl := Option.some_inj.mp (hf'.symm.trans hf)
    have hfound := hanswers'.2.symm.trans hanswers.2
    rw [Except.ok.injEq, Option.some_inj] at hfound
    exact ⟨last, hof', hfound ▸ rfl⟩
  | otherMethod hpassed => exact absurd (hpassed route (List.mem_of_getElem? hroute)) hstops
  | nothing hnone =>
    exact absurd (.inl (hnone route (List.mem_of_getElem? hroute))) hstops
  | gaveUp => exact absurd rfl (hscan _ _)

/-- The draft of the fixture that the scan ends with is what is sent. -/
theorem Serves.isAnswered (hs : Serves config (fs.map Fixture.registration) s) {n : Nat}
    {f : Fixture} (hsorted : IsSorted f.headers) {route : Route} {found : RouteMatch}
    (hof : IsRouteOf config f.registration route)
    (hselection : s.selection given = .route n route found) :
    (f.laidDown found given).IsAnswered (s.dispatch given).value.2 := by
  have hfollows := hs.follows given
  rw [hselection] at hfollows
  have hdraft : route.handler { seenBy config given with routeMatch := some found } {} =
      (f.laidDown found given, .finished) := by
    rw [hof.handler]
    exact f.handler_eq hsorted rfl
  have hproper : (f.laidDown found given).headers.IsProper := by
    have hlaid := Headers.isProper_ofList f.settings
    rwa [show Headers.ofList f.settings = (f.laidDown found given).headers from
      congrArg Headers.mk (Headers.entries_ofList _)] at hlaid
  rw [hfollows.2, hdraft]
  exact Draft.isAnswered_send hproper

/-- A server with the routes of a list of fixtures and without a fallback answers as the list says.
Of the fixtures that match the url as it stands and have the method the first one decides, with the
draft that it lays down. If only fixtures with other methods match, the method is not allowed, and
if none matches, nothing is found. The scan must not be given up. -/
theorem dispatch_fixtures {count : Nat}
    (hadd : ((Server.new config).addFixtures fs).value = (s, .ok count))
    (hsorted : ∀ f ∈ fs, IsSorted f.headers)
    (hscan : ∀ route e, s.selection given ≠ .gaveUp route e) :
    (∀ (n : Nat) (f : Fixture) (found : RouteMatch), fs[n]? = some f →
      f.Answers config given found →
      (∀ i < n, ∀ earlier : Fixture, fs[i]? = some earlier →
        ∀ found', ¬earlier.Answers config given found') →
      (f.laidDown found given).IsAnswered (s.dispatch given).value.2) ∧
    ((∀ f ∈ fs, ∀ found, ¬f.Answers config given found) →
      (∃ f ∈ fs, ∃ found, f.Matches config given found) →
      (s.dispatch given).value.2 = .error .methodNotAllowed) ∧
    ((∀ f ∈ fs, ∀ found, ¬f.Matches config given found) →
      (s.dispatch given).value.2 = .error .notFound) := by
  obtain ⟨hreached, -, hfallback⟩ := reached_addFixtures .new hadd
  have hs : Serves config (fs.map Fixture.registration) s := hreached.serves
  have hfollows := hs.follows given
  have hends := ends_selection s given
  refine ⟨fun n f found hf hanswers hfirst => ?_, fun hnone => ?_, fun hnone => ?_⟩
  · obtain ⟨route, hof, hselection⟩ := hs.selection_eq hscan hf hanswers hfirst
    exact hs.isAnswered (hsorted f (List.mem_of_getElem? hf)) hof hselection
  · rintro ⟨f, hf, found, hmatches⟩
    generalize s.selection given = selection at hscan hends hfollows
    cases hends with
    | route hroute hmethod hmatch =>
      obtain ⟨f', hf', hof⟩ := hs.exists_fixture hroute
      exact absurd (hs.answers hof hmethod hmatch) (hnone f' (List.mem_of_getElem? hf') _)
    | otherMethod => exact hfollows.2
    | nothing hno =>
      obtain ⟨n, hn⟩ := List.mem_iff_getElem?.mp hf
      obtain ⟨route, hroute, hof⟩ := hs.exists_route hn
      have hmatch := (hs.matchUrl_iff hof).mpr hmatches
      exact absurd (hmatch.symm.trans (hno route (List.mem_of_getElem? hroute))) (by simp)
    | gaveUp => exact absurd rfl (hscan _ _)
  · -- a route that matches is that of a fixture that does
    have hno {n : Nat} {route : Route} {found : RouteMatch} (hroute : s.routes[n]? = some route)
        (hmatch : route.matchUrl (s.fullUrl given) = .ok (some found)) : False := by
      obtain ⟨f, hf, hof⟩ := hs.exists_fixture hroute
      exact hnone f (List.mem_of_getElem? hf) found ((hs.matchUrl_iff hof).mp hmatch)
    generalize s.selection given = selection at hscan hends hfollows
    cases hends with
    | route hroute _ hmatch => exact (hno hroute hmatch).elim
    | otherMethod _ hroute hmatch =>
      obtain ⟨n, hn⟩ := List.mem_iff_getElem?.mp hroute
      exact (hno hn hmatch).elim
    | nothing => exact (hfollows.2 hfallback).2
    | gaveUp => exact absurd rfl (hscan _ _)

end Fixtures

/-- The first fixture has another method; the second one says that its JSON value is plain text, and
sets a header twice, in two spellings. -/
def widgets : List Fixture :=
  [{ path := "/items/:id", method := .post, status := 204 },
    { path := "/items/:id"
      status := 201
      headers := [("Content-Type", "text/plain"), ("X-A", "1"), ("x-a", "2")]
      json := some (.int 7) }]

def widgetServer : Server := ((Server.new {}).addFixtures widgets).value.1

/-- A request for the url that both fixtures match. -/
def getItem : Request := { Request.new (.ofNat 0) "/items/5" with method := some .get }

theorem addFixtures_widgets :
    ((Server.new {}).addFixtures widgets).value = (widgetServer, .ok 2) :=
  Prod.ext rfl (by decide +kernel)

theorem matches_widgets : ∀ f ∈ widgets, f.Matches {} getItem
    ⟨"/items/:id", "/items/5", true, [(.named "id", some "5")]⟩ := by
  have hurl : urlOf {} getItem = "/items/5" := by decide
  have hmatch : (exactly "/items/:id").evaluate "/items/5" =
      .ok (some ⟨"/items/:id", "/items/5", true, [(.named "id", some "5")]⟩) := by decide +kernel
  intro f hf
  rw [Fixture.Matches, hurl]
  simp only [widgets, List.mem_cons, List.not_mem_nil, or_false] at hf
  rcases hf with rfl | rfl
  · exact hmatch
  · exact hmatch

/-- The second fixture answers. Its JSON value is sent as a string, and its last header counts. -/
theorem dispatch_fixtures_widgets :
    (∀ f ∈ widgets, IsSorted f.headers) ∧
      (∀ route e, widgetServer.selection getItem ≠ .gaveUp route e) ∧
      (widgetServer.dispatch getItem).value.2 = .ok ⟨201, "201 created",
        ⟨[("content-type", "text/plain"), ("x-a", "2")]⟩, .string "7"⟩ := by
  have hsorted : ∀ f ∈ widgets, IsSorted f.headers := by decide
  have hscan : ∀ route e, widgetServer.selection getItem ≠ .gaveUp route e := by
    intro route e hgaveUp
    have hends := ends_selection widgetServer getItem
    rw [hgaveUp] at hends
    cases hends with
    | gaveUp hroute herror =>
      have hs := (reached_addFixtures .new addFixtures_widgets).1.serves
      obtain ⟨n, hn⟩ := List.mem_iff_getElem?.mp hroute
      obtain ⟨f, hf, hof⟩ := hs.exists_fixture hn
      have hmatch := (hs.matchUrl_iff hof).mpr (matches_widgets f (List.mem_of_getElem? hf))
      exact absurd (hmatch.symm.trans herror) (by simp)
  have hfirst : ∀ i < 1, ∀ earlier, widgets[i]? = some earlier →
      ∀ found, ¬earlier.Answers {} getItem found := by
    intro i hi earlier hearlier found hanswers
    obtain rfl : i = 0 := by omega
    obtain rfl := Option.some_inj.mp hearlier
    exact absurd hanswers.1 (by decide)
  let found : RouteMatch := ⟨"/items/:id", "/items/5", true, [(.named "id", some "5")]⟩
  obtain ⟨f, hf, hlaid⟩ : ∃ f, widgets[1]? = some f ∧ f.laidDown found getItem =
      ⟨201, ⟨[("content-type", "text/plain"), ("x-a", "2")]⟩, "7"⟩ := ⟨_, rfl, by decide +kernel⟩
  have hanswered := (dispatch_fixtures addFixtures_widgets hsorted hscan).1 1 f found hf
    ⟨by cases hf; rfl, matches_widgets f (List.mem_of_getElem? hf)⟩ hfirst
  rw [hlaid] at hanswered
  have hplain : ¬Draft.AnnouncesJson
      ⟨201, ⟨[("content-type", "text/plain"), ("x-a", "2")]⟩, "7"⟩ := by
    rintro ⟨value, hvalue, hjson⟩
    obtain rfl : value = "text/plain" := by simpa [contentType] using hvalue
    exact absurd ((announcesJson_iff _).mpr hjson) (by decide)
  have hstatus : statusText 201 = "201 created" := by decide
  rw [← hstatus]
  exact ⟨hsorted, hscan, hanswered.plain hplain⟩

end MockHttp.Server
