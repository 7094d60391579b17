import MockHttp.Proofs.Server.Frame
import MockHttp.Session

/-!
# The stages of an exchange

A request passes through the request transforms, the observers, the driver, the response transforms
and the observers again. This module says which stages there are, what enters each of them and in
which order they are taken, in terms of the client as it was when the exchange began. What the
transforms register meanwhile has no part in it: it is there for the exchanges that follow.

Results:
1. `runAll_spec`: a run of transforms applies each of them once, in order, to what the one before it
   left.
2. `stages_tellAll`: every observer is told once, in order.
3. `Client.send_stages`: the stages of an exchange, its outcome, and the client after it.
-/

namespace MockHttp

open Http Middleware

/-! ## Stages -/

/-- The step is a stage on the way of a request: it does more than log an event. -/
def Step.isStage : Step → Bool
  | log _ => false
  | outside step => step.isStage
  | _ => true

def Traced.stages {α : Type} (a : Traced Step α) : List Step := a.steps.filter Step.isStage

namespace Traced

variable {α β : Type}

@[simp] theorem stages_pure (a : α) : (Pure.pure a : Traced Step α).stages = [] := rfl

@[simp] theorem stages_bind (a : Traced Step α) (f : α → Traced Step β) :
    (a >>= f).stages = a.stages ++ (f a.value).stages := by
  simp only [stages, steps_bind, List.filter_append]

theorem stages_step {s : Step} (hs : s.isStage = true) : (step s).stages = [s] := by
  simp [stages, step, hs]

end Traced

/-! ## Runs of transforms -/

namespace Middleware

variable {α : Type}

/-- What a transform makes of a value. -/
def turn (a : α) (entry : String × Transform α) : α := (entry.2 a).1

/-- What becomes of a value that passes through some transforms, first to last. -/
def passed (entries : List (String × Transform α)) (a : α) : α := entries.foldl turn a

/-- The values on the way through some transforms: the one that enters each of them, and the one
that leaves the last. -/
def passing (entries : List (String × Transform α)) (a : α) : List α := entries.scanl turn a

/-- The steps of applying some transforms, each once, to a value that passes through them. -/
def applied (step : String → α → Step) (entries : List (String × Transform α)) (a : α) :
    List Step :=
  entries.zipWith (fun entry b => step entry.1 b) (passing entries a)

/-- What some transforms register while a value passes through them, in the order in which they do
so. -/
def registered (entries : List (String × Transform α)) (a : α) : List Registration :=
  (entries.zipWith (fun entry b => (entry.2 b).2) (passing entries a)).flatten

/-- Every transform is applied once, in order, to what the one before it left. -/
theorem runAll_spec (step : String → α → Step) (hstep : ∀ name a, (step name a).isStage = true)
    (entries : List (String × Transform α)) (a : α) :
    (runAll step entries a).stages = applied step entries a ∧
      (runAll step entries a).value = (passed entries a, registered entries a) := by
  induction entries generalizing a with
  | nil => exact ⟨rfl, rfl⟩
  | cons entry rest ih =>
    obtain ⟨name, f⟩ := entry
    obtain ⟨hstages, hvalue⟩ := ih (f a).1
    have hpassing : passing ((name, f) :: rest) a = a :: passing rest (f a).1 :=
      List.scanl_cons
    constructor
    · calc
        (runAll step ((name, f) :: rest) a).stages
          = step name a :: (runAll step rest (f a).1).stages := by
            simp [runAll, Traced.stages_step (hstep name a)]
        _ = step name a :: applied step rest (f a).1 := by rw [hstages]
        _ = applied step ((name, f) :: rest) a := by
            rw [applied, applied, hpassing, List.zipWith_cons_cons]
    · have hregistered : registered ((name, f) :: rest) a =
          (f a).2 ++ registered rest (f a).1 := by
        rw [registered, registered, hpassing, List.zipWith_cons_cons, List.flatten_cons]
      rw [hregistered]
      simp only [runAll, Traced.value_bind, Traced.value_pure, hvalue]
      rfl

end Middleware

/-! ## Observers -/

/-- What every observer is told, if each of them takes one stage. -/
theorem stages_tellAll {tell : Observer → Traced Step Unit} {told : Observer → Step}
    (htell : ∀ o, (tell o).stages = [told o]) (observers : List Observer) :
    (Observer.tellAll tell observers).stages = observers.map told := by
  induction observers with
  | nil => rfl
  | cons o rest ih =>
    simp only [Observer.tellAll, Traced.stages_bind, htell, ih]
    rfl

theorem stages_before (request : Request) (o : Observer) :
    (Observer.before request o).stages = [.before o request] := by
  cases o <;> rfl

theorem stages_after (request : Request) (outcome : Outcome) (o : Observer) :
    (Observer.after request outcome o).stages = [.after o request outcome] := by
  cases o <;> cases outcome <;> rfl

/-! ## Exchanges -/

def Http.responseOf : Outcome → Response
  | .ok response => response
  | .error failure => failure.response

/-- The outcome with another response: a success stays a success, and a failure one of its kind. -/
def Http.withResponse (response : Response) : Outcome → Outcome
  | .ok _ => .ok response
  | .error failure => .error { failure with response := response }

/-- What answers a request leaves the server as it is. -/
theorem Endpoint.server_service (s : Server) (endpoint : Endpoint) (request : Request) :
    (endpoint.service s request).value.1 = s := by
  cases endpoint with
  | server => exact s.server_dispatch request
  | custom driver => rfl

namespace Client

/-- The request that enters the first transform: the given one, with the timeout and the credentials
of the configuration where it says nothing about them. -/
def entering (c : Client) (given : Request) : Request :=
  { given with
    timeoutSecs := given.timeoutSecs.or (some c.config.timeoutSecs)
    withCredentials := given.withCredentials.or (some c.config.withCredentials) }

/-- The request that the observers and the driver get. -/
def sent (c : Client) (given : Request) : Request :=
  passed c.requestChain.entries (c.entering given)

/-- The outcome that the observers and the caller get where the driver has given this one. -/
def delivered (c : Client) (outcome : Outcome) : Outcome :=
  withResponse (passed c.responseChain.entries (responseOf outcome)) outcome

/-- What is registered while a request and the outcome of the driver pass through the chains. -/
def made (c : Client) (given : Request) (outcome : Outcome) : List Registration :=
  registered c.requestChain.entries (c.entering given) ++
    registered c.responseChain.entries (responseOf outcome)

/-- The stages that an exchange should have where the driver gives this answer: the request
transforms, every observer before, the driver with whatever stages it has itself, the response
transforms, every observer after. -/
def course (c : Client) (given : Request) (answer : Traced Step (Server × Outcome)) : List Step :=
  applied .transformRequest c.requestChain.entries (c.entering given) ++
    c.observers.map (.before · (c.sent given)) ++
    .call (c.sent given) :: answer.stages ++
    applied .transformResponse c.responseChain.entries (responseOf answer.value.2) ++
    c.observers.map (.after · (c.sent given) (c.delivered answer.value.2))

theorem fillIn_eq (c : Client) (given : Request) : c.fillIn given = c.entering given := by
  unfold fillIn entering
  cases given.timeoutSecs <;> cases given.withCredentials <;> rfl

/-- The response transforms are applied to the response of the outcome, whichever outcome it is. -/
theorem transformOutcome_spec (c : Client) (outcome : Outcome) :
    (c.transformOutcome outcome).stages =
        applied .transformResponse c.responseChain.entries (responseOf outcome) ∧
      (c.transformOutcome outcome).value =
        (c.delivered outcome, registered c.responseChain.entries (responseOf outcome)) := by
  have hrun (response : Response) := runAll_spec .transformResponse (fun _ _ => rfl)
    c.responseChain.entries response
  cases outcome with
  | ok response =>
    obtain ⟨hstages, hvalue⟩ := hrun response
    constructor
    · simp [transformOutcome, Chain.run, hstages, responseOf]
    · simp only [transformOutcome, Chain.run, Traced.value_bind, Traced.value_pure, hvalue]
      rfl
  | error failure =>
    obtain ⟨hstages, hvalue⟩ := hrun failure.response
    constructor
    · simp [transformOutcome, Chain.run, hstages, responseOf]
    · simp only [transformOutcome, Chain.run, Traced.value_bind, Traced.value_pure, hvalue]
      rfl

theorem stages_logOutcome (c : Client) (request : Request) (outcome : Outcome) :
    (c.logOutcome request outcome).stages = [] := by
  cases outcome <;> rfl

/-- An exchange takes its course, and what the transforms registered is there afterwards. The server
is what it became by the answer. -/
theorem exchange_spec (c : Client) (service : Service) (given : Request) :
    let answer := service (c.sent given)
    (c.exchange service given).stages = c.course given answer ∧
      (c.exchange service given).value = (answer.value.1,
        c.registerAll (c.made given answer.value.2), c.delivered answer.value.2) := by
  intro answer
  obtain ⟨hrequest, hsent⟩ := runAll_spec .transformRequest (fun _ _ => rfl)
    c.requestChain.entries (c.entering given)
  obtain ⟨hresponse, hdelivered⟩ := c.transformOutcome_spec answer.value.2
  have hbefore := stages_tellAll (stages_before (c.sent given)) c.observers
  have hafter := stages_tellAll
    (stages_after (c.sent given) (c.delivered answer.value.2)) c.observers
  have hlog : (c.logRequest (c.sent given)).stages = [] := rfl
  have hcall : (Traced.step (.call (c.sent given))).stages = [.call (c.sent given)] := rfl
  unfold exchange
  rw [fillIn_eq]
  constructor
  · simp only [Chain.run, Traced.stages_bind, Traced.stages_pure, hrequest, hsent, ← sent.eq_1,
      hbefore, hlog, hcall, answer, hresponse, hdelivered, hafter, stages_logOutcome]
    simp only [course, List.append_nil, List.nil_append, List.append_assoc, List.cons_append]
  · simp only [Chain.run, Traced.value_bind, Traced.value_pure, hsent, ← sent.eq_1, answer,
      hdelivered]
    rfl

/-- A request goes to the endpoint that it is sent to, or else to that of the client, in an
exchange. -/
theorem send_of_endpoint {s : Session} {endpoint : Option Endpoint} {chosen : Endpoint}
    (h : endpoint.or s.client.endpoint = some chosen) (given : Request) :
    let sending := s.client.exchange (chosen.service s.server) given
    (s.send endpoint given).stages = sending.stages ∧
      (s.send endpoint given).value.1.server = sending.value.1 ∧
      (s.send endpoint given).value.1.client = sending.value.2.1 ∧
      (s.send endpoint given).value.2 = sending.value.2.2.mapError .failure := by
  intro sending
  have hsend : s.send endpoint given = s.carry (s.client.send s.server (some chosen) given) := by
    rw [Session.send, h]
  have hsteps : (s.send endpoint given).steps = sending.steps ++ [] := by
    rw [hsend]
    rfl
  refine ⟨?_, ?_⟩
  · rw [List.append_nil] at hsteps
    exact congrArg (List.filter Step.isStage) hsteps
  · rw [hsend]
    exact ⟨rfl, rfl, rfl⟩

/-- What sending a request does. An exchange has the stages of its course, each taken once and in
that order: the request transforms that the client had when the exchange began, from the request
with an absent timeout and absent credentials filled in; every observer before; the driver, with the
request that the transforms left and that the observers saw; the response transforms, on the
response of a success or of a failure alike; every observer after, with that request and the outcome
that the caller gets. The outcome is a success, or a failure of some kind, just where that of the
driver is. What the transforms registered takes part in none of this and is there afterwards, and
the server is what it became by the answer. The driver is that of the endpoint that the request is
sent to, or else of the client's; without an endpoint there is no stage. -/
theorem send_stages (s : Session) (given : Request) :
    (∀ service : Service,
      let answer := service (s.client.sent given)
      (s.client.exchange service given).stages = s.client.course given answer ∧
        (s.client.exchange service given).value =
          (answer.value.1, s.client.registerAll (s.client.made given answer.value.2),
            s.client.delivered answer.value.2)) ∧
    ∀ endpoint : Option Endpoint,
      match endpoint.or s.client.endpoint with
      | some chosen =>
        let answer := chosen.service s.server (s.client.sent given)
        (s.send endpoint given).stages = s.client.course given answer ∧
          (s.send endpoint given).value.1.server = answer.value.1 ∧
          (s.send endpoint given).value.1.client =
            s.client.registerAll (s.client.made given answer.value.2) ∧
          (s.send endpoint given).value.2 = (s.client.delivered answer.value.2).mapError .failure
      | none =>
        (s.send endpoint given).stages = [] ∧ (s.send endpoint given).value.1.server = s.server ∧
          (s.send endpoint given).value.1.client = s.client ∧
          (s.send endpoint given).value.2 = .error .missingDriver := by
  refine ⟨fun service => s.client.exchange_spec service given, fun endpoint => ?_⟩
  cases hchosen : endpoint.or s.client.endpoint with
  | some chosen =>
    obtain ⟨hstages, hserver, hclient, hresult⟩ := send_of_endpoint hchosen given
    obtain ⟨hcourse, hvalue⟩ := s.client.exchange_spec (chosen.service s.server) given
    refine ⟨hstages.trans hcourse, ?_, ?_, ?_⟩
    · rw [hserver, hvalue]
    · rw [hclient, hvalue]
    · rw [hresult, hvalue]
  | none =>
    rw [Session.send, hchosen]
    exact ⟨rfl, rfl, rfl, rfl⟩

end Client

end MockHttp
