import MockHttp.Proofs.Http.Headers
import MockHttp.Proofs.Server.Frame
import MockHttp.Proofs.Server.MediaType

/-!
# What an outcome tells

Whatever a server answers by itself, the kind of a failure fits the status, the status text is that
of the status, and the headers are proper. A handler that finishes decides with its draft; of a
handler that fails only the message is told.

Results:
1. `IsWriter.isProper`: what is written on a draft leaves its headers proper.
2. `payload?_eq_none_iff`: which drafts stand for nothing.
3. `wrote_or_nobody`: the outcome is what is made of a draft, or no handler was called.
4. `dispatch_coherent`: every outcome is coherent, and of which handlers it tells what.
-/

namespace MockHttp

open Http Template

/-! ## Coherent outcomes -/

namespace Http

/-- A failure of this kind comes with such a status. A server does not fail to be reached. -/
def FailureKind.Fits : FailureKind → Nat → Prop
  | notFound, status => status = 404
  | methodNotAllowed, status => status = 405
  | handler, status | invalidBody, status => status = 500
  | business, status => 400 ≤ status
  | transport, _ => False

/-- The status text is that of the status, and the headers are proper. -/
structure Response.IsCoherent (r : Response) : Prop where
  statusText : r.statusText = Http.statusText r.status
  headers : r.headers.IsProper

/-- A response is a success, and the status of a failure fits its kind. -/
inductive Coherent : Outcome → Prop
  | ok {r : Response} : r.status < 400 → r.IsCoherent → Coherent (.ok r)
  | error {f : Failure} : f.kind.Fits f.response.status → f.response.IsCoherent →
    Coherent (.error f)

theorem Response.isCoherent_new (status : Nat) {headers : Headers} (h : headers.IsProper)
    (payload : Json) : (Response.new status headers payload).IsCoherent := ⟨rfl, h⟩

/-- The failures that a server makes up itself. -/
theorem coherent_bare (kind : FailureKind) {status : Nat} (h : kind.Fits status) (payload : Json) :
    Coherent (.error (.bare kind status payload)) :=
  .error h (Response.isCoherent_new status .empty payload)

end Http

namespace Server

/-! ## Drafts -/

/-- Something that a handler can do to its draft. -/
inductive Write where
  | status (status : Nat)
  | more (text : String)
  | body (text : String)
  | header (name value : String)
  | json (value : Json)

def Draft.put (d : Draft) : Write → Draft
  | .status status => d.setStatus status
  | .more text => d.write text
  | .body text => d.setBody text
  | .header name value => d.setHeader name value
  | .json value => d.setJson value

/-- All that a handler does to its draft is to write on it. -/
def IsWriter (h : Handler) : Prop :=
  ∀ request d, ∃ writes : List Write, (h request d).1 = writes.foldl Draft.put d

theorem Draft.isProper_put {d : Draft} (hd : d.headers.IsProper) (w : Write) :
    (d.put w).headers.IsProper := by
  cases w with
  | status status => exact hd
  | more text => exact hd
  | body text => exact hd
  | header name value => exact hd.insert name value
  | json value => exact hd.insert contentType jsonMedia

theorem Draft.isProper_foldl {d : Draft} (hd : d.headers.IsProper) (writes : List Write) :
    (writes.foldl put d).headers.IsProper := by
  induction writes generalizing d with
  | nil => exact hd
  | cons w writes ih => exact ih (isProper_put hd w)

/-- The headers of a handler that began with a fresh draft are proper. -/
theorem IsWriter.isProper {h : Handler} (hh : IsWriter h) (request : Request) :
    (h request {}).1.headers.IsProper := by
  obtain ⟨writes, hwrites⟩ := hh request {}
  rw [hwrites]
  exact Draft.isProper_foldl .empty writes

namespace Draft

/-- The content type says that the body is JSON. -/
def AnnouncesJson (d : Draft) : Prop :=
  ∃ value, (contentType, value) ∈ d.headers.entries ∧ IsJsonType value

/-- The body is announced as JSON, is more than white space, and is no JSON. -/
structure IsBroken (d : Draft) : Prop where
  announced : d.AnnouncesJson
  notBlank : ∃ c ∈ d.body.toList, Text.isBlank c = false
  invalid : Json.parse? d.body = none

theorem isJson_iff {d : Draft} (hd : d.headers.IsProper) : d.isJson = true ↔ d.AnnouncesJson := by
  have hname : Text.IsLower contentType := by simp [Text.IsLower, contentType]
  rw [isJson, Option.any_eq_true]
  refine exists_congr fun value => and_congr ?_ (announcesJson_iff value)
  exact hd.get?_eq_some_iff hname

/-- A draft stands for nothing if its body is broken. -/
theorem payload?_eq_none_iff {d : Draft} (hd : d.headers.IsProper) :
    d.payload? = none ↔ d.IsBroken := by
  have hblank : d.body.toList.all Text.isBlank = false ↔
      ∃ c ∈ d.body.toList, Text.isBlank c = false := by
    simp
  rw [payload?]
  constructor
  · intro h
    split at h
    · exact absurd h (by simp)
    · next hjson =>
      split at h
      · exact absurd h (by simp)
      · next hbody =>
        exact ⟨(isJson_iff hd).mp (by simpa using hjson), hblank.mp (by simpa using hbody), h⟩
  · rintro ⟨hannounced, hbody, hinvalid⟩
    rw [if_neg (by simp [(isJson_iff hd).mpr hannounced]), if_neg (by simp [hblank.mpr hbody]),
      hinvalid]

theorem value_send_of_broken {d : Draft} (hd : d.headers.IsProper) (h : d.IsBroken) :
    d.send.value = .error (.invalidBody d.headers d.body) := by
  rw [send, (payload?_eq_none_iff hd).mpr h]
  rfl

/-- A draft that is not broken is sent with its status and headers. -/
theorem value_send {d : Draft} (hd : d.headers.IsProper) (h : ¬d.IsBroken) :
    ∃ payload, d.send.value =
      if d.status < 400 then .ok (.new d.status d.headers payload)
      else .error (.business (.new d.status d.headers payload)) := by
  cases hpayload : d.payload? with
  | none => exact absurd ((payload?_eq_none_iff hd).mp hpayload) h
  | some payload =>
    refine ⟨payload, ?_⟩
    rw [send, hpayload]
    show (if decide (d.status < 400) = true then Except.ok _ else Except.error _) = _
    simp only [decide_eq_true_eq]

end Draft

def Ending.message? : Ending → Option String
  | finished => none
  | failed message => some message
  | panicked message => some (message.getD "handler panicked")

theorem eq_finished {ending : Ending} (h : ending.message? = none) : ending = .finished := by
  cases ending with
  | finished => rfl
  | failed message => exact absurd h (by simp [Ending.message?])
  | panicked message => exact absurd h (by simp [Ending.message?])

/-- Of a handler that does not finish only its message is told. -/
theorem value_conclude {ending : Ending} {message : String} (h : ending.message? = some message)
    (request : Request) (d : Draft) :
    (conclude request d ending).value = .error (.handler message) := by
  cases ending with
  | finished => exact absurd h (by simp [Ending.message?])
  | failed m =>
    obtain rfl := Option.some_inj.mp h
    rfl
  | panicked m =>
    obtain rfl := Option.some_inj.mp h
    rfl

theorem coherent_conclude (request : Request) {d : Draft} (hd : d.headers.IsProper)
    (ending : Ending) : Coherent (conclude request d ending).value := by
  cases hmessage : ending.message? with
  | some message =>
    rw [value_conclude hmessage]
    exact coherent_bare .handler rfl _
  | none =>
    obtain rfl := eq_finished hmessage
    rw [conclude]
    by_cases hbroken : d.IsBroken
    · rw [Draft.value_send_of_broken hd hbroken]
      exact .error rfl (Response.isCoherent_new _ hd _)
    · obtain ⟨payload, hsend⟩ := Draft.value_send hd hbroken
      rw [hsend]
      split
      · next hstatus => exact .ok hstatus (Response.isCoherent_new _ hd _)
      · next hstatus => exact .error (Nat.le_of_not_lt hstatus) (Response.isCoherent_new _ hd _)

/-! ## Dispatches -/

/-- While the server answered the request, the handler of a registration was called and wrote this
draft; so it ended. -/
def Wrote (rs : List Registration) (s : Server) (given : Request) (d : Draft) (ending : Ending) :
    Prop :=
  ∃ n r request, (s.dispatch given).calls = [.handle n request] ∧ rs[n]? = some r ∧
    r.handler request {} = (d, ending)

section Reached

variable {config : Config} {rs : List Registration} {s : Server} {given : Request} {d : Draft}
  {ending : Ending}

/-- A registration stands behind every route. -/
theorem Serves.exists_registration (hs : Serves config rs s) {n : Nat} {route : Route}
    (hroute : s.routes[n]? = some route) : ∃ r, rs[n]? = some r ∧ IsRouteOf config r route := by
  obtain ⟨hlength, hrel⟩ := List.forall₂_iff_get.mp hs.routes
  obtain ⟨hn, rfl⟩ := List.getElem?_eq_some_iff.mp hroute
  exact ⟨rs[n], List.getElem?_eq_getElem (hlength ▸ hn), hrel n (hlength ▸ hn) hn⟩

/-- The outcome is made of what a handler wrote and of how it ended. -/
theorem value_of_wrote (hs : Reached config rs s) (h : Wrote rs s given d ending) :
    ∃ request, (s.dispatch given).value.2 = (conclude request d ending).value := by
  obtain ⟨n, r, request, hcalls, hr, hhandler⟩ := h
  have hmade := calls_dispatch s given
  rw [Traced.calls_eq_filter_deeds] at hcalls
  generalize (s.dispatch given).deeds = deeds at hmade hcalls
  generalize (s.dispatch given).value.2 = outcome at hmade ⊢
  cases hmade with
  | nobody => exact absurd hcalls (List.cons_ne_nil _ _).symm
  | @handler n route found hroute hmethod hmatch =>
    obtain ⟨r', hr', hbehind⟩ := hs.serves.exists_registration hroute
    obtain ⟨rfl, rfl⟩ := Step.handle.inj (List.cons.inj hcalls).1
    obtain rfl := Option.some_inj.mp (hr'.symm.trans hr)
    rw [hbehind.handler, hhandler]
    exact ⟨_, rfl⟩
  | fallback => exact absurd (List.cons.inj hcalls).1 Step.noConfusion

/-- Where the fallback is not called, a handler has been called or nobody. -/
theorem wrote_or_nobody (hs : Reached config rs s)
    (hown : ∀ request, .fallback request ∉ (s.dispatch given).calls) :
    (∃ d ending, Wrote rs s given d ending) ∨
      (s.dispatch given).value.2 = .error .notFound ∨
      (s.dispatch given).value.2 = .error .methodNotAllowed ∨
      ∃ message, (s.dispatch given).value.2 = .error (.handler message) := by
  have hmade := calls_dispatch s given
  have hcalls := Traced.calls_eq_filter_deeds (s.dispatch given)
  generalize (s.dispatch given).deeds = deeds at hmade hcalls
  generalize (s.dispatch given).value.2 = outcome at hmade ⊢
  cases hmade with
  | nobody houtcome => exact .inr houtcome
  | @handler n route found hroute hmethod hmatch =>
    obtain ⟨r, hr, hbehind⟩ := hs.serves.exists_registration hroute
    exact .inl ⟨_, _, n, r, s.asked given found, hcalls, hr, rfl⟩
  | fallback => exact absurd (hcalls ▸ List.mem_cons_self) (hown given)

theorem Wrote.isProper (hwriters : ∀ r ∈ rs, IsWriter r.handler)
    (h : Wrote rs s given d ending) : d.headers.IsProper := by
  obtain ⟨n, r, request, -, hr, hhandler⟩ := h
  have hproper := (hwriters r (List.mem_of_getElem? hr)).isProper request
  rw [hhandler] at hproper
  exact hproper

/-- A broken draft is not sent, but reported with its headers and its body. -/
theorem value_of_broken (hs : Reached config rs s) (hwriters : ∀ r ∈ rs, IsWriter r.handler)
    (hwrote : Wrote rs s given d .finished) (h : d.IsBroken) :
    (s.dispatch given).value.2 = .error (.invalidBody d.headers d.body) := by
  obtain ⟨request, hvalue⟩ := value_of_wrote hs hwrote
  rw [hvalue]
  exact Draft.value_send_of_broken (hwrote.isProper hwriters) h

theorem value_of_sound (hs : Reached config rs s) (hwriters : ∀ r ∈ rs, IsWriter r.handler)
    (hwrote : Wrote rs s given d .finished) (h : ¬d.IsBroken) :
    ∃ payload, (s.dispatch given).value.2 =
      if d.status < 400 then .ok (.new d.status d.headers payload)
      else .error (.business (.new d.status d.headers payload)) := by
  obtain ⟨request, hvalue⟩ := value_of_wrote hs hwrote
  rw [hvalue]
  exact Draft.value_send (hwrote.isProper hwriters) h

theorem value_of_failed (hs : Reached config rs s) {message : String}
    (hwrote : Wrote rs s given d ending) (h : ending.message? = some message) :
    (s.dispatch given).value.2 = .error (.handler message) := by
  obtain ⟨request, hvalue⟩ := value_of_wrote hs hwrote
  rw [hvalue]
  exact value_conclude h request d

theorem coherent_dispatch (hs : Reached config rs s) (hwriters : ∀ r ∈ rs, IsWriter r.handler)
    (hown : ∀ request, .fallback request ∉ (s.dispatch given).calls) :
    Coherent (s.dispatch given).value.2 := by
  rcases wrote_or_nobody hs hown with ⟨d, ending, hwrote⟩ | h | h | ⟨message, h⟩
  · obtain ⟨request, hvalue⟩ := value_of_wrote hs hwrote
    rw [hvalue]
    exact coherent_conclude request (hwrote.isProper hwriters) ending
  · rw [h]
    exact coherent_bare .notFound rfl _
  · rw [h]
    exact coherent_bare .methodNotAllowed rfl _
  · rw [h]
    exact coherent_bare .handler rfl _

/-- Only a handler that has finished makes the server report an invalid body or a failure of
business. -/
theorem wrote_of_kind (hs : Reached config rs s)
    (hown : ∀ request, .fallback request ∉ (s.dispatch given).calls) {f : Failure}
    (hf : (s.dispatch given).value.2 = .error f)
    (hkind : f.kind = .invalidBody ∨ f.kind = .business) : ∃ d, Wrote rs s given d .finished := by
  have hother {g : Failure} (hg : (s.dispatch given).value.2 = .error g)
      (hno : g.kind ≠ .invalidBody ∧ g.kind ≠ .business) : False := by
    obtain rfl := Except.error.inj (hf.symm.trans hg)
    exact hkind.elim hno.1 hno.2
  have hhandler (message : String) : (Failure.handler message).kind ≠ .invalidBody ∧
      (Failure.handler message).kind ≠ .business := by
    simp [Failure.handler, Failure.bare]
  rcases wrote_or_nobody hs hown with ⟨d, ending, hwrote⟩ | h | h | ⟨message, h⟩
  · cases hmessage : ending.message? with
    | some message =>
      exact (hother (value_of_failed hs hwrote hmessage) (hhandler message)).elim
    | none => exact ⟨d, eq_finished hmessage ▸ hwrote⟩
  · exact (hother h (by decide)).elim
  · exact (hother h (by decide)).elim
  · exact (hother h (hhandler message)).elim

theorem invalidBody_iff (hs : Reached config rs s) (hwriters : ∀ r ∈ rs, IsWriter r.handler)
    (hown : ∀ request, .fallback request ∉ (s.dispatch given).calls) :
    (∃ f, (s.dispatch given).value.2 = .error f ∧ f.kind = .invalidBody) ↔
      ∃ d, Wrote rs s given d .finished ∧ d.IsBroken := by
  constructor
  · rintro ⟨f, hf, hkind⟩
    obtain ⟨d, hwrote⟩ := wrote_of_kind hs hown hf (.inl hkind)
    refine ⟨d, hwrote, ?_⟩
    by_contra hsound
    obtain ⟨payload, hvalue⟩ := value_of_sound hs hwriters hwrote hsound
    rw [hf] at hvalue
    split at hvalue
    · exact absurd hvalue (by simp)
    · obtain rfl := Except.error.inj hvalue
      exact absurd hkind (by simp [Failure.business])
  · rintro ⟨d, hwrote, h⟩
    exact ⟨_, value_of_broken hs hwriters hwrote h, rfl⟩

theorem status_of_business (hs : Reached config rs s) (hwriters : ∀ r ∈ rs, IsWriter r.handler)
    (hown : ∀ request, .fallback request ∉ (s.dispatch given).calls) {f : Failure}
    (hf : (s.dispatch given).value.2 = .error f) (hkind : f.kind = .business) :
    ∃ d, Wrote rs s given d .finished ∧ ¬d.IsBroken ∧ f.response.status = d.status := by
  obtain ⟨d, hwrote⟩ := wrote_of_kind hs hown hf (.inr hkind)
  by_cases h : d.IsBroken
  · obtain rfl := Except.error.inj (hf.symm.trans (value_of_broken hs hwriters hwrote h))
    exact absurd hkind (by simp [Failure.invalidBody])
  · obtain ⟨payload, hvalue⟩ := value_of_sound hs hwriters hwrote h
    rw [hf] at hvalue
    split at hvalue
    · exact absurd hvalue (by simp)
    · obtain rfl := Except.error.inj hvalue
      exact ⟨d, hwrote, h, rfl⟩

/-- Every outcome that a server decides itself is coherent. A body is reported as invalid exactly if
a handler has finished with a broken draft, whatever status it wrote, and is then kept with all its
headers. A handler that finishes with any other draft decides the status, and a failure of business
is such a one. A handler that does not finish fails with its message and nothing else, so two of
them with the same message have the same outcome, whatever they wrote. -/
theorem dispatch_coherent (hs : Reached config rs s) (hwriters : ∀ r ∈ rs, IsWriter r.handler)
    (hown : ∀ request, .fallback request ∉ (s.dispatch given).calls) :
    Coherent (s.dispatch given).value.2 ∧
      ((∃ f, (s.dispatch given).value.2 = .error f ∧ f.kind = .invalidBody) ↔
        ∃ d, Wrote rs s given d .finished ∧ d.IsBroken) ∧
      (∀ d, Wrote rs s given d .finished → d.IsBroken → (s.dispatch given).value.2 =
        .error ⟨.invalidBody, ⟨500, statusText 500, d.headers, .string d.body⟩⟩) ∧
      (∀ d, Wrote rs s given d .finished → ¬d.IsBroken → ∃ payload, (s.dispatch given).value.2 =
        if d.status < 400 then .ok ⟨d.status, statusText d.status, d.headers, payload⟩
        else .error ⟨.business, ⟨d.status, statusText d.status, d.headers, payload⟩⟩) ∧
      (∀ f, (s.dispatch given).value.2 = .error f → f.kind = .business →
        ∃ d, Wrote rs s given d .finished ∧ ¬d.IsBroken ∧ f.response.status = d.status) ∧
      ∀ d ending message, Wrote rs s given d ending → ending.message? = some message →
        (s.dispatch given).value.2 =
          .error ⟨.handler, ⟨500, statusText 500, .empty, .string message⟩⟩ ∧
        ∀ {config' : Config} {rs' : List Registration} {s' : Server}, Reached config' rs' s' →
          ∀ given' d' ending', Wrote rs' s' given' d' ending' → ending'.message? = some message →
            (s'.dispatch given').value.2 = (s.dispatch given).value.2 := by
  refine ⟨coherent_dispatch hs hwriters hown, invalidBody_iff hs hwriters hown,
    fun d hwrote h => value_of_broken hs hwriters hwrote h,
    fun d hwrote h => value_of_sound hs hwriters hwrote h,
    fun f hf hkind => status_of_business hs hwriters hown hf hkind, ?_⟩
  intro d ending message hwrote hmessage
  have hvalue := value_of_failed hs hwrote hmessage
  refine ⟨hvalue, fun hs' given' d' ending' hwrote' hmessage' => ?_⟩
  rw [value_of_failed hs' hwrote' hmessage', hvalue]

end Reached

def soleRegistration (handler : Handler) : Registration := ⟨"/a", .get, handler⟩

def soleServer (handler : Handler) : Server :=
  ((Server.new {}).addRoute "/a" .get handler).value.1

theorem reached_sole (handler : Handler) :
    Reached {} [soleRegistration handler] (soleServer handler) := by
  have hadded : ((Server.new {}).addRoute "/a" .get handler).value.2 = .ok () :=
    (addRoute_eq_ok_iff _ (soleRegistration handler)).mpr (by
      change ((Server.new {}).store.compile ("" ++ "/a") routeFlags).value.2.isOk = true
      decide +kernel)
  exact Reached.new.add (soleRegistration handler) (Prod.ext rfl hadded)

/-- It is the one that is chosen for a request to get `/a`. -/
theorem chosen_sole (handler : Handler) {request : Request} (hurl : request.url = "/a") :
    ∃ route, IsRouteOf {} (soleRegistration handler) route ∧
      (choose request .get false (soleServer handler).routes.zipIdx).value =
        .route 0 route ⟨"/a", "/a", true, []⟩ := by
  have hserves := (reached_sole handler).serves
  have hmatched : List.Forall₂
      (fun _ route => route.matchUrl request.url = .ok (some ⟨"/a", "/a", true, []⟩))
      [soleRegistration handler] (soleServer handler).routes := by
    refine forall₂_matchUrl hserves.routes hserves.store fun r hr => ?_
    obtain rfl := List.mem_singleton.mp hr
    rw [hurl, Registration.matchIn_eq _ _ hserves.store]
    change firstMatch routeFlags.options "/a" true ["" ++ "/a"] = _
    decide +kernel
  exact choose_eq_route hserves.routes hmatched (n := 0) rfl rfl rfl (by simp) false 0

/-- Its handler is called when such a request comes. -/
theorem calls_sole (handler : Handler) :
    ((soleServer handler).dispatch getA).calls = [.handle 0 { seenBy {} getA with
      routeMatch := some ⟨"/a", "/a", true, []⟩ }] := by
  have hurl : (seenBy {} getA).url = "/a" := by decide
  obtain ⟨route, _, hchoose⟩ := chosen_sole handler hurl
  exact (dispatch_follows (reached_sole handler).serves getA hchoose).1

theorem wrote_sole {handler : Handler} {d : Draft} {ending : Ending}
    (h : ∀ request, handler request {} = (d, ending)) :
    Wrote [soleRegistration handler] (soleServer handler) getA d ending :=
  ⟨0, _, _, calls_sole handler, rfl, h _⟩

/-- A handler that announces JSON, in its own spelling, and writes none. -/
def unclosed : Registration where
  path := "/a"
  method := .get
  handler _ d :=
    (((d.setStatus 418).setHeader "Content-Type" "Application/JSON ; v=1").write "\x7B", .finished)

theorem isWriter_unclosed : IsWriter unclosed.handler := fun _ _ =>
  ⟨[.status 418, .header "Content-Type" "Application/JSON ; v=1", .more "\x7B"], rfl⟩

/-- What it has written when it has finished. -/
def unclosedDraft : Draft := ⟨418, ⟨[("content-type", "Application/JSON ; v=1")]⟩, "\x7B"⟩

def unclosedServer : Server := ((Server.new {}).addRoute "/a" .get unclosed.handler).value.1

theorem reached_unclosed : Reached {} [unclosed] unclosedServer := reached_sole unclosed.handler

theorem calls_unclosed :
    (unclosedServer.dispatch getA).calls = [.handle 0 { seenBy {} getA with
      routeMatch := some ⟨"/a", "/a", true, []⟩ }] := calls_sole unclosed.handler

/-- The body is reported as it is, and the status that was written is not. -/
theorem dispatch_coherent_unclosed :
    (unclosedServer.dispatch getA).value.2 =
      .error ⟨.invalidBody, ⟨500, "500 internal server error",
        ⟨[("content-type", "Application/JSON ; v=1")]⟩, .string "\x7B"⟩⟩ := by
  have hwriters : ∀ r ∈ [unclosed], IsWriter r.handler := by
    intro r hr
    obtain rfl := List.mem_singleton.mp hr
    exact isWriter_unclosed
  have hown : ∀ request, .fallback request ∉ (unclosedServer.dispatch getA).calls := by
    intro request
    rw [calls_unclosed]
    simp
  have hwrote : Wrote [unclosed] unclosedServer getA unclosedDraft .finished :=
    ⟨0, unclosed, _, calls_unclosed, rfl, Prod.ext (by decide) rfl⟩
  have hbroken : unclosedDraft.IsBroken := by
    refine ⟨(Draft.isJson_iff (hwrote.isProper hwriters)).mp (by decide), ?_, by cbv⟩
    exact ⟨'\x7B', by simp [unclosedDraft], by decide⟩
  have hstatus : statusText 500 = "500 internal server error" := by decide
  rw [← hstatus]
  exact (dispatch_coherent reached_unclosed hwriters hown).2.2.1 unclosedDraft hwrote hbroken

end Server

end MockHttp
