import Mathlib.Algebra.BigOperators.Group.List.Basic
import Mathlib.Algebra.Ring.Nat
import MockHttp.Proofs.Client.Stages

/-!
# What the metrics count

The observer for metrics is told about a request as often as it was registered when the request set
out: before the driver is called, and once more when the driver has answered. Between the two,
anything may happen to the client and the server, and other requests may set out and come home. So a
record of the requests that came home, with how often the metrics were registered for each of them
and what it came home with, determines the counters.

Results:
1. `course_eq`: an exchange is a way out, the stages of the driver, and a way home.
2. `countAll_outward`, `countAll_homeward`: what the metrics count on either way.
3. `perform_send`: a request that is sent sets out and comes home at once.
4. `Metrics.Balances.setOut`, `Metrics.Balances.comeHome`: the counters stay those of the record.
5. `metrics_account`: what the counters are after any events.
-/

namespace MockHttp

open Http Middleware

/-! ## The two ways of an exchange -/

namespace Client

/-- The stages of an exchange up to the call of the driver. -/
def outward (c : Client) (given : Request) : List Step :=
  applied .transformRequest c.requestChain.entries (c.entering given) ++
    c.observers.map (.before · (c.sent given)) ++ [.call (c.sent given)]

/-- The stages of an exchange from the answer of the driver on. -/
def homeward (c : Client) (given : Request) (outcome : Outcome) : List Step :=
  applied .transformResponse c.responseChain.entries (responseOf outcome) ++
    c.observers.map (.after · (c.sent given) (c.delivered outcome))

def madeOutward (c : Client) (given : Request) : List Registration :=
  registered c.requestChain.entries (c.entering given)

def madeHomeward (c : Client) (outcome : Outcome) : List Registration :=
  registered c.responseChain.entries (responseOf outcome)

theorem course_eq (c : Client) (given : Request) (answer : Traced Step (Server × Outcome)) :
    c.course given answer =
      c.outward given ++ answer.stages ++ c.homeward given answer.value.2 := by
  simp only [course, outward, homeward, List.append_assoc, List.cons_append, List.nil_append]

theorem made_eq (c : Client) (given : Request) (outcome : Outcome) :
    c.made given outcome = c.madeOutward given ++ c.madeHomeward outcome := rfl

theorem registerAll_append (c : Client) (first later : List Registration) :
    c.registerAll (first ++ later) = (c.registerAll first).registerAll later := List.foldl_append

end Client

/-! ## What is counted on the way -/

def Middleware.Registration.isMetrics : Registration → Bool
  | .observer .metrics => true
  | _ => false

theorem Client.count_register (c : Client) (r : Registration) :
    (c.register r).observers.count .metrics =
      c.observers.count .metrics + [r].countP Registration.isMetrics := by
  cases r with
  | request name t => rfl
  | response name t => rfl
  | observer o =>
    rw [register, observe, List.count_append]
    cases o <;> rfl

theorem Client.count_registerAll (c : Client) (made : List Registration) :
    (c.registerAll made).observers.count .metrics =
      c.observers.count .metrics + made.countP Registration.isMetrics := by
  induction made generalizing c with
  | nil => rfl
  | cons r rest ih =>
    calc ((c.register r).registerAll rest).observers.count .metrics
      _ = (c.register r).observers.count .metrics + rest.countP Registration.isMetrics := ih _
      _ = c.observers.count .metrics + ([r] ++ rest).countP Registration.isMetrics := by
        rw [c.count_register, Nat.add_assoc, List.countP_append]

namespace Middleware.Metrics

theorem countAll_append (m : Metrics) (first later : List Step) :
    m.countAll (first ++ later) = (m.countAll first).countAll later := List.foldl_append

theorem countAll_of_forall {steps : List Step}
    (h : ∀ step ∈ steps, ∀ m : Metrics, m.count step = m) (m : Metrics) : m.countAll steps = m := by
  induction steps with
  | nil => rfl
  | cons step rest ih =>
    obtain ⟨hstep, hrest⟩ := List.forall_mem_cons.mp h
    rw [countAll, List.foldl_cons, hstep]
    exact ih hrest

/-- Steps that are not counted may be left out. -/
theorem countAll_filter {p : Step → Bool}
    (hp : ∀ step, p step = false → ∀ m : Metrics, m.count step = m) (m : Metrics)
    (steps : List Step) : m.countAll (steps.filter p) = m.countAll steps := by
  induction steps generalizing m with
  | nil => rfl
  | cons step rest ih =>
    cases hstep : p step with
    | true =>
      rw [List.filter_cons_of_pos hstep]
      exact ih (m.count step)
    | false =>
      rw [List.filter_cons_of_neg (Bool.eq_false_iff.mp hstep), ih]
      exact congrArg (·.countAll rest) (hp step hstep m).symm

/-- What drivers do that were handed over is not counted. -/
theorem countAll_outside (m : Metrics) (steps : List Step) : m.countAll (steps.map .outside) = m :=
  countAll_of_forall (List.forall_mem_map.mpr fun _ _ _ => rfl) m

/-- Events that are logged are not counted. -/
theorem countAll_stages {α : Type} (m : Metrics) (a : Traced Step α) :
    m.countAll a.stages = m.countAll a.steps := by
  refine countAll_filter (fun step hstep m => ?_) m a.steps
  cases step with
  | log event => rfl
  | outside step => rfl
  | _ => exact absurd hstep Bool.noConfusion

/-- Transforms that are applied are not counted. -/
theorem countAll_applied {α : Type} {step : String → α → Step}
    (hstep : ∀ name a, ∀ m : Metrics, m.count (step name a) = m)
    (entries : List (String × Transform α)) (a : α) (m : Metrics) :
    m.countAll (applied step entries a) = m := by
  refine countAll_of_forall (fun s hs => ?_) m
  obtain ⟨i, hi, rfl⟩ := List.mem_iff_getElem.mp hs
  simp only [applied, List.getElem_zipWith]
  exact hstep _ _

/-- Nothing of what a server does is counted. -/
theorem countAll_dispatch (m : Metrics) (s : Server) (given : Request) :
    m.countAll (s.dispatch given).steps = m := by
  have hidle : m.countAll (s.dispatch given).deeds = m.countAll (s.dispatch given).steps := by
    refine countAll_filter (fun step hstep m => ?_) m _
    cases step with
    | log event => rfl
    | wait greatest => rfl
    | _ => exact absurd hstep Bool.noConfusion
  have hcalls := s.calls_dispatch given
  rw [← hidle]
  generalize (s.dispatch given).deeds = deeds at hcalls ⊢
  generalize (s.dispatch given).value.2 = outcome at hcalls
  cases hcalls with
  | nobody => rfl
  | handler => rfl
  | @fallback driver => exact countAll_outside m _

theorem countAll_service (m : Metrics) (s : Server) (endpoint : Endpoint) (request : Request) :
    m.countAll (endpoint.service s request).steps = m := by
  cases endpoint with
  | server => exact countAll_dispatch m s request
  | custom driver =>
    rw [Endpoint.service, Traced.steps_bind, countAll_append]
    exact countAll_outside m _

theorem countAll_before (m : Metrics) (request : Request) (observers : List Observer) :
    m.countAll (observers.map (.before · request)) =
      { m with requests := m.requests + observers.count .metrics } := by
  induction observers generalizing m with
  | nil => rfl
  | cons o rest ih =>
    refine (ih (m.count (.before o request))).trans ?_
    cases o <;> simp [count, countRequest, Nat.add_assoc, Nat.add_comm 1]

theorem countAll_after (m : Metrics) (request : Request) (outcome : Outcome)
    (observers : List Observer) :
    m.countAll (observers.map (.after · request outcome)) =
      (countOutcome · outcome)^[observers.count .metrics] m := by
  induction observers generalizing m with
  | nil => rfl
  | cons o rest ih =>
    refine (ih (m.count (.after o request outcome))).trans ?_
    cases o <;> simp [count]

/-- On the way out, the request is counted once for each time that the metrics are registered. -/
theorem countAll_outward (m : Metrics) (c : Client) (given : Request) :
    m.countAll (c.outward given) =
      { m with requests := m.requests + c.observers.count .metrics } := by
  rw [Client.outward, countAll_append, countAll_append, countAll_applied (fun _ _ _ => rfl),
    countAll_before]
  rfl

/-- On the way home, so is the outcome that is delivered. -/
theorem countAll_homeward (m : Metrics) (c : Client) (given : Request) (outcome : Outcome) :
    m.countAll (c.homeward given outcome) =
      (countOutcome · (c.delivered outcome))^[c.observers.count .metrics] m := by
  rw [Client.homeward, countAll_append, countAll_applied (fun _ _ _ => rfl), countAll_after]

end Middleware.Metrics

/-! ## Records of what came home -/

/-- A request that was sent, and what came of it. -/
structure Delivery where
  /-- How often the metrics were registered when it set out. -/
  registered : Nat
  result : Client.Reply

namespace Delivery

/-- There was something to send to. -/
def hadDriver (d : Delivery) : Bool :=
  match d.result with
  | .error .missingDriver => false
  | _ => true

def succeeded (d : Delivery) : Bool :=
  match d.result with
  | .ok _ => true
  | .error _ => false

def failed (d : Delivery) : Bool :=
  match d.result with
  | .error (.failure _) => true
  | _ => false

def status? (d : Delivery) : Option Nat :=
  match d.result with
  | .ok response => some response.status
  | .error (.failure failure) => some failure.response.status
  | .error .missingDriver => none

theorem hadDriver_eq (d : Delivery) : d.hadDriver = d.status?.isSome := by
  obtain ⟨n, (_ | failure) | response⟩ := d <;> rfl

/-- The status has this digit in front of two others. -/
def inClass (c : Nat) (d : Delivery) : Bool :=
  d.status?.any fun status => 100 * c ≤ status ∧ status ≤ 100 * c + 99

/-- The status is one of three digits, the first from 1 to 5. -/
def isClassed (d : Delivery) : Bool :=
  d.status?.any fun status => 100 ≤ status ∧ status ≤ 599

/-- How often the metrics were registered for the deliveries that pass a test, in all. -/
def total (test : Delivery → Bool) (ds : List Delivery) : Nat :=
  ((ds.filter test).map (·.registered)).sum

theorem total_cons (test : Delivery → Bool) (d : Delivery) (ds : List Delivery) :
    total test (d :: ds) = (if test d then d.registered else 0) + total test ds := by
  cases h : test d <;> simp [total, h]

theorem total_concat (test : Delivery → Bool) (ds : List Delivery) (d : Delivery) :
    total test (ds ++ [d]) = total test ds + if test d then d.registered else 0 := by
  cases h : test d <;> simp [total, h]

/-- A test that includes another counts at least as much, and more if a delivery makes a
difference. -/
theorem total_le {p q : Delivery → Bool} (h : ∀ d, p d = true → q d = true) (ds : List Delivery) :
    total p ds ≤ total q ds ∧
      (total p ds = total q ds ↔ ∀ d ∈ ds, 0 < d.registered → q d = true → p d = true) := by
  induction ds with
  | nil => simp [total]
  | cons d ds ih =>
    obtain ⟨hle, heq⟩ := ih
    have hnext : (if p d then d.registered else 0) ≤ (if q d then d.registered else 0) ∧
        ((if p d then d.registered else 0) = (if q d then d.registered else 0) ↔
          (0 < d.registered → q d = true → p d = true)) := by
      have hd := h d
      cases hp : p d with
      | true => simp [hd hp]
      | false =>
        cases q d with
        | true =>
          simp only [Bool.false_eq_true, if_false, if_true, forall_const, imp_false]
          omega
        | false => simp
    rw [total_cons, total_cons, List.forall_mem_cons, ← heq, ← hnext.2]
    omega

theorem sum_ite (d : Delivery) (tests : List (Delivery → Bool)) :
    (tests.map fun p => if p d then d.registered else 0).sum =
      (tests.countP fun p => p d) * d.registered := by
  induction tests with
  | nil => simp
  | cons p rest ih => cases h : p d <;> simp [h, ih, Nat.add_mul, Nat.add_comm]

/-- Where exactly one of several tests is passed by what passes another, they count together what
that counts. -/
theorem total_sum {tests : List (Delivery → Bool)} {test : Delivery → Bool}
    (h : ∀ d, (tests.countP fun p => p d) = if test d then 1 else 0) (ds : List Delivery) :
    (tests.map (total · ds)).sum = total test ds := by
  induction ds with
  | nil => simp [total]
  | cons d ds ih =>
    simp only [total_cons]
    rw [List.sum_map_add, sum_ite, h, ih]
    cases test d <;> simp

end Delivery

/-! ## Counters and records -/

namespace Middleware.Metrics

open Delivery

/-- The counters are those of a record, with some requests that have not come home. -/
structure Balances (m : Metrics) (pending : Nat) (ds : List Delivery) : Prop where
  requests : m.requests = total hadDriver ds + pending
  successes : m.successes = total succeeded ds
  failures : m.failures = total failed ds
  classes : m.classes = [1, 2, 3, 4, 5].map fun c => total (inClass c) ds

theorem class_iff (c status : Nat) :
    (100 * c ≤ status ∧ status ≤ 100 * c + 99) ↔ status / 100 = c := by
  omega

theorem countClass_map (f : Nat → Nat) (status : Nat) :
    countClass ([1, 2, 3, 4, 5].map f) status =
      [1, 2, 3, 4, 5].map fun c =>
        f c + if 100 * c ≤ status ∧ status ≤ 100 * c + 99 then 1 else 0 := by
  simp only [class_iff]
  unfold countClass
  split
  · next hsmall =>
    rw [Nat.div_eq_of_lt hsmall]
    rfl
  · next hlarge =>
    obtain ⟨k, hk⟩ : ∃ k, status / 100 = k + 1 := ⟨status / 100 - 1, by omega⟩
    rw [hk, Nat.add_sub_cancel]
    match k with
    | 0 | 1 | 2 | 3 | 4 => rfl
    | k + 5 =>
      rw [List.modify_eq_self (by simp)]
      rfl

/-- Counting a status several times adds their number to its class. -/
theorem iterate_countClass (f : Nat → Nat) (status n : Nat) :
    (countClass · status)^[n] ([1, 2, 3, 4, 5].map f) =
      [1, 2, 3, 4, 5].map fun c =>
        f c + if 100 * c ≤ status ∧ status ≤ 100 * c + 99 then n else 0 := by
  induction n generalizing f with
  | zero => simp
  | succ n ih =>
    rw [Function.iterate_succ_apply, countClass_map, ih]
    refine List.map_congr_left fun c _ => ?_
    split <;> omega

theorem iterate_countOutcome (m : Metrics) (outcome : Outcome) (n : Nat) :
    (countOutcome · outcome)^[n] m = { m with
      successes := m.successes + if outcome.isOk then n else 0
      failures := m.failures + if outcome.isOk then 0 else n
      classes := (countClass · (responseOf outcome).status)^[n] m.classes } := by
  induction n generalizing m with
  | zero => cases outcome <;> rfl
  | succ n ih =>
    rw [Function.iterate_succ_apply, ih, Function.iterate_succ_apply]
    cases outcome with
    | ok response =>
      show (⟨m.requests, m.successes + 1 + n, m.failures, _⟩ : Metrics) =
        ⟨m.requests, m.successes + (n + 1), m.failures, _⟩
      rw [Nat.add_assoc, Nat.add_comm 1]
      rfl
    | error failure =>
      show (⟨m.requests, m.successes, m.failures + 1 + n, _⟩ : Metrics) =
        ⟨m.requests, m.successes, m.failures + (n + 1), _⟩
      rw [Nat.add_assoc, Nat.add_comm 1]
      rfl

namespace Balances

variable {m : Metrics} {pending : Nat} {ds : List Delivery}

theorem new : Balances {} 0 [] := ⟨rfl, rfl, rfl, rfl⟩

/-- A request sets out. -/
theorem setOut (h : m.Balances pending ds) (n : Nat) :
    { m with requests := m.requests + n }.Balances (pending + n) ds :=
  { h with requests := by rw [h.requests, Nat.add_assoc] }

/-- A request comes home. -/
theorem comeHome {n : Nat} (h : m.Balances (pending + n) ds) (outcome : Outcome) :
    ((countOutcome · outcome)^[n] m).Balances pending
      (ds ++ [⟨n, outcome.mapError .failure⟩]) := by
  rw [iterate_countOutcome]
  constructor
  · have hcounted : hadDriver ⟨n, outcome.mapError .failure⟩ = true := by
      cases outcome <;> rfl
    rw [total_concat, hcounted, if_pos rfl]
    show m.requests = total hadDriver ds + n + pending
    rw [h.requests]
    omega
  · rw [total_concat, h.successes]
    cases outcome <;> rfl
  · rw [total_concat, h.failures]
    cases outcome <;> rfl
  · rw [h.classes, iterate_countClass]
    refine List.map_congr_left fun c _ => ?_
    have htest : inClass c ⟨n, outcome.mapError .failure⟩ = decide
        (100 * c ≤ (responseOf outcome).status ∧ (responseOf outcome).status ≤ 100 * c + 99) := by
      cases outcome <;> rfl
    rw [total_concat, htest]
    simp only [decide_eq_true_eq]

/-- A request without a driver has no part in it. -/
theorem stay (h : m.Balances pending ds) (n : Nat) :
    m.Balances pending (ds ++ [⟨n, .error .missingDriver⟩]) := by
  have htotal (test : Delivery → Bool) (htest : test ⟨n, .error .missingDriver⟩ = false) :
      total test (ds ++ [⟨n, .error .missingDriver⟩]) = total test ds := by
    rw [total_concat, htest]
    rfl
  constructor
  · rw [htotal _ rfl, h.requests]
  · rw [htotal _ rfl, h.successes]
  · rw [htotal _ rfl, h.failures]
  · rw [h.classes]
    exact List.map_congr_left fun c _ => (htotal _ rfl).symm

/-- Successes and failures are all that came home. -/
theorem outcomes (h : m.Balances pending ds) : m.successes + m.failures = total hadDriver ds := by
  have hsum : ([succeeded, failed].map (total · ds)).sum = total hadDriver ds := by
    refine total_sum (fun d => ?_) ds
    obtain ⟨n, (_ | failure) | response⟩ := d <;> rfl
  rw [h.successes, h.failures, ← hsum]
  rfl

theorem sum_classes (h : m.Balances pending ds) : m.classes.sum = total isClassed ds := by
  have hsum : (([1, 2, 3, 4, 5].map inClass).map (total · ds)).sum = total isClassed ds := by
    refine total_sum (fun d => ?_) ds
    cases hstatus : d.status? with
    | none => simp [inClass, isClassed, hstatus]
    | some status =>
      have hclassed : (100 ≤ status ∧ status ≤ 599) ↔ 1 ≤ status / 100 ∧ status / 100 ≤ 5 := by
        omega
      simp only [List.countP_map, Function.comp_def, inClass, isClassed, hstatus, Option.any_some,
        class_iff, hclassed]
      match status / 100 with
      | 0 | 1 | 2 | 3 | 4 | 5 | q + 6 => rfl
  rw [h.classes, ← hsum]
  rfl

end Balances

/-- The counters account for the requests of a record. -/
structure Accounts (m : Metrics) (pending : Nat) (ds : List Delivery) : Prop
    extends m.Balances pending ds where
  /-- Every request that came home from a driver is a success or a failure. -/
  outcomes : m.successes + m.failures = total hadDriver ds
  /-- At most one class is counted for each of them. -/
  le : m.classes.sum ≤ m.successes + m.failures
  /-- None is left out just if all that were counted have a status of a class. -/
  full : m.classes.sum = m.successes + m.failures ↔
    ∀ d ∈ ds, 0 < d.registered → ∀ status, d.status? = some status → 100 ≤ status ∧ status ≤ 599

theorem Balances.accounts {m : Metrics} {pending : Nat} {ds : List Delivery}
    (h : m.Balances pending ds) : m.Accounts pending ds := by
  have himp (d : Delivery) (hd : d.isClassed = true) : d.hadDriver = true := by
    rw [hadDriver_eq]
    rw [isClassed] at hd
    cases hstatus : d.status? with
    | none => exact absurd (hstatus ▸ hd) (by simp)
    | some status => rfl
  obtain ⟨hle, heq⟩ := total_le himp ds
  rw [← h.outcomes, ← h.sum_classes] at hle heq
  refine { h with outcomes := h.outcomes, le := hle, full := heq.trans ?_ }
  refine forall₂_congr fun d _ => imp_congr_right fun _ => ?_
  cases hstatus : d.status? with
  | none => simp [hadDriver_eq, hstatus]
  | some status => simp [hadDriver_eq, isClassed, hstatus]

end Middleware.Metrics

/-! ## Traffic -/

structure Underway where
  /-- The client as it was when the request set out. -/
  client : Client
  given : Request
  /-- How often the metrics were registered then. -/
  registered : Nat

/-- How often the metrics were registered for some requests on their way, in all. -/
def Underway.total (us : List Underway) : Nat := (us.map (·.registered)).sum

theorem Underway.total_concat (us : List Underway) (u : Underway) :
    total (us ++ [u]) = total us + u.registered := by
  simp [total]

theorem Underway.total_eraseIdx {us : List Underway} {number : Nat} {u : Underway}
    (h : us[number]? = some u) : total us = total (us.eraseIdx number) + u.registered := by
  obtain ⟨hlt, rfl⟩ := List.getElem?_eq_some_iff.mp h
  have hperm := (List.getElem_cons_eraseIdx_perm hlt).map (·.registered)
  rw [total, ← hperm.sum_eq, List.map_cons, List.sum_cons, Nat.add_comm]
  rfl

/-- A session, with what it takes to say what its counters should be. -/
structure Traffic where
  session : Session
  /-- How often the metrics have been registered. -/
  registered : Nat := 0
  underway : List Underway := []
  /-- The requests that came home, in the order in which they did. -/
  deliveries : List Delivery := []

/-- What may happen to a session. -/
inductive Traffic.Event where
  /-- The server is changed, in whatever way. -/
  | serve (server : Server)
  /-- The client gets another endpoint. -/
  | connect (endpoint : Endpoint)
  | register (r : Registration)
  /-- A request is sent, and nothing else happens before it comes home. -/
  | send (endpoint : Option Endpoint) (given : Request)
  /-- A request sets out. -/
  | start (endpoint : Option Endpoint) (given : Request)
  /-- The driver has answered one of the requests underway, and it comes home. -/
  | finish (number : Nat) (outcome : Outcome)

/-- The event leaves no request underway. -/
def Traffic.Event.isWhole : Traffic.Event → Bool
  | start _ _ => false
  | _ => true

namespace Traffic

def new (config : Config) : Traffic where
  session := .new config

def madeBySend (s : Session) (endpoint : Option Endpoint) (given : Request) : List Registration :=
  match endpoint.or s.client.endpoint with
  | none => []
  | some chosen => s.client.made given (chosen.service s.server (s.client.sent given)).value.2

/-- Some stages are taken, and some registrations are made on the way. -/
def pass (t : Traffic) (stages : List Step) (made : List Registration) : Traffic :=
  { t with
    session := { t.session with
      client := t.session.client.registerAll made
      metrics := t.session.metrics.countAll stages }
    registered := t.registered + made.countP Registration.isMetrics }

def perform (t : Traffic) : Event → Traffic
  | .serve server => { t with session := { t.session with server := server } }
  | .connect endpoint => { t with session := t.session.setEndpoint endpoint }
  | .register r =>
    { t with
      session := t.session.register r
      registered := t.registered + [r].countP Registration.isMetrics }
  | .send endpoint given =>
    let answer := (t.session.send endpoint given).value
    { t with
      session := answer.1
      registered := t.registered +
        (madeBySend t.session endpoint given).countP Registration.isMetrics
      deliveries := t.deliveries ++ [⟨t.registered, answer.2⟩] }
  | .start endpoint given =>
    match endpoint.or t.session.client.endpoint with
    | none => { t with deliveries := t.deliveries ++ [⟨t.registered, .error .missingDriver⟩] }
    | some _ =>
      { t.pass (t.session.client.outward given) (t.session.client.madeOutward given) with
        underway := t.underway ++ [⟨t.session.client, given, t.registered⟩] }
  | .finish number outcome =>
    match t.underway[number]? with
    | none => t
    | some u =>
      { t.pass (u.client.homeward u.given outcome) (u.client.madeHomeward outcome) with
        underway := t.underway.eraseIdx number
        deliveries := t.deliveries ++
          [⟨u.registered, (u.client.delivered outcome).mapError .failure⟩] }

def after (t : Traffic) (events : List Event) : Traffic := events.foldl perform t

/-- Nothing happens where there is nothing to send to. -/
theorem send_of_none {s : Session} {endpoint : Option Endpoint}
    (h : endpoint.or s.client.endpoint = none) (given : Request) :
    (s.send endpoint given).value = (s, .error .missingDriver) := by
  rw [Session.send, h]
  rfl

/-- A request that is sent goes to the driver and comes back, and the metrics count what they are
told on either way. -/
theorem send_of_some {s : Session} {endpoint : Option Endpoint} {chosen : Endpoint}
    (h : endpoint.or s.client.endpoint = some chosen) (given : Request) :
    let outcome := (chosen.service s.server (s.client.sent given)).value.2
    (s.send endpoint given).value =
      ({ s with
          client := s.client.registerAll (s.client.made given outcome)
          metrics :=
            (s.metrics.countAll (s.client.outward given)).countAll
              (s.client.homeward given outcome) },
        (s.client.delivered outcome).mapError .failure) := by
  intro outcome
  obtain ⟨hstages, hserver, hclient, hresult⟩ := Client.send_of_endpoint h given
  obtain ⟨hcourse, hvalue⟩ := s.client.exchange_spec (chosen.service s.server) given
  have hmetrics : (s.send endpoint given).value.1.metrics =
      (s.metrics.countAll (s.client.outward given)).countAll (s.client.homeward given outcome) :=
    calc s.metrics.countAll (s.send endpoint given).steps
      _ = s.metrics.countAll (s.client.course given
            (chosen.service s.server (s.client.sent given))) := by
        rw [← Metrics.countAll_stages, hstages, hcourse]
      _ = _ := by
        rw [Client.course_eq, Metrics.countAll_append, Metrics.countAll_append,
          Metrics.countAll_stages, Metrics.countAll_service]
  rw [hvalue] at hserver hclient hresult
  rw [Endpoint.server_service] at hserver
  generalize (s.send endpoint given).value = sent at hserver hclient hmetrics hresult ⊢
  obtain ⟨⟨server, client, metrics⟩, result⟩ := sent
  obtain rfl : server = s.server := hserver
  obtain rfl : client = _ := hclient
  obtain rfl : metrics = _ := hmetrics
  obtain rfl : result = _ := hresult
  rfl

/-- A request that is sent sets out, and comes home with the answer of the driver before anything
else happens. -/
theorem perform_send {t : Traffic} {endpoint : Option Endpoint} {chosen : Endpoint}
    (h : endpoint.or t.session.client.endpoint = some chosen) (given : Request) :
    t.perform (.send endpoint given) =
      (t.perform (.start endpoint given)).perform (.finish t.underway.length
        (chosen.service t.session.server (t.session.client.sent given)).value.2) := by
  have hfound (u : Underway) : (t.underway ++ [u])[t.underway.length]? = some u :=
    List.getElem?_concat_length
  have herase (u : Underway) : (t.underway ++ [u]).eraseIdx t.underway.length = t.underway := by
    rw [List.eraseIdx_append_of_length_le (Nat.le_refl _), Nat.sub_self]
    exact List.append_nil _
  simp only [perform, madeBySend, send_of_some h, h, pass, hfound, herase, Client.made_eq,
    Client.registerAll_append, List.countP_append, Nat.add_assoc]

/-- What has happened agrees with the counters. -/
structure IsBalanced (t : Traffic) : Prop where
  registered : t.registered = t.session.client.observers.count .metrics
  underway : ∀ u ∈ t.underway, u.registered = u.client.observers.count .metrics
  metrics : t.session.metrics.Balances (Underway.total t.underway) t.deliveries

theorem isBalanced_new (config : Config) : (new config).IsBalanced :=
  ⟨rfl, fun _ h => absurd h List.not_mem_nil, .new⟩

namespace IsBalanced

variable {t : Traffic}

theorem start (h : t.IsBalanced) (endpoint : Option Endpoint) (given : Request) :
    (t.perform (.start endpoint given)).IsBalanced := by
  rw [perform]
  split
  · exact ⟨h.registered, h.underway, h.metrics.stay _⟩
  · refine ⟨?_, ?_, ?_⟩
    · rw [pass, h.registered]
      exact (Client.count_registerAll _ _).symm
    · intro u hu
      rcases List.mem_append.mp hu with hu | hu
      · exact h.underway u hu
      · obtain rfl := List.mem_singleton.mp hu
        exact h.registered
    · have hout := h.metrics.setOut t.registered
      dsimp only [pass]
      rw [Metrics.countAll_outward, ← h.registered, Underway.total_concat]
      exact hout

theorem finish (h : t.IsBalanced) (number : Nat) (outcome : Outcome) :
    (t.perform (.finish number outcome)).IsBalanced := by
  rw [perform]
  split
  · exact h
  · next u hu =>
    refine ⟨?_, ?_, ?_⟩
    · rw [pass, h.registered]
      exact (Client.count_registerAll _ _).symm
    · exact fun v hv => h.underway v (List.mem_of_mem_eraseIdx hv)
    · have hbalance := h.metrics
      rw [Underway.total_eraseIdx hu] at hbalance
      have hhome := hbalance.comeHome (u.client.delivered outcome)
      dsimp only [pass]
      rw [Metrics.countAll_homeward, ← h.underway u (List.mem_of_getElem? hu)]
      exact hhome

/-- No event upsets the balance. -/
theorem perform (h : t.IsBalanced) (event : Event) : (t.perform event).IsBalanced := by
  cases event with
  | serve server => exact ⟨h.registered, h.underway, h.metrics⟩
  | connect endpoint => exact ⟨h.registered, h.underway, h.metrics⟩
  | register r =>
    refine ⟨?_, h.underway, h.metrics⟩
    rw [Traffic.perform, h.registered]
    exact (Client.count_register _ _).symm
  | send endpoint given =>
    cases hchosen : endpoint.or t.session.client.endpoint with
    | none =>
      have hstay := h.metrics.stay t.registered
      rw [Traffic.perform, send_of_none hchosen, madeBySend, hchosen]
      exact ⟨h.registered, h.underway, hstay⟩
    | some chosen =>
      rw [perform_send hchosen]
      exact (h.start endpoint given).finish _ _
  | start endpoint given => exact h.start endpoint given
  | finish number outcome => exact h.finish number outcome

theorem after (h : t.IsBalanced) (events : List Event) : (t.after events).IsBalanced := by
  induction events generalizing t with
  | nil => exact h
  | cons event rest ih => exact ih (h.perform event)

end IsBalanced

/-- Where no request sets out alone, none is underway. -/
theorem underway_after {t : Traffic} (h : t.underway = []) {events : List Event}
    (hevents : ∀ e ∈ events, e.isWhole = true) : (t.after events).underway = [] := by
  induction events generalizing t with
  | nil => exact h
  | cons event rest ih =>
    obtain ⟨hevent, hrest⟩ := List.forall_mem_cons.mp hevents
    refine ih ?_ hrest
    cases event with
    | start endpoint given => exact absurd hevent (by simp [Event.isWhole])
    | finish number outcome =>
      rw [perform, h]
      exact h
    | _ => exact h

/-- After any events, the counters account for all requests that were sent. Each that had a driver
counts as often as the metrics were registered when it set out: at once as a request, and when it
has come home as a success or a failure, whatever the response transforms made of it, and under the
class of the status that it came home with. Where requests are sent one after the other, all are at
home, and requests are successes and failures. A request that has no driver changes nothing. -/
theorem metrics_account (config : Config) (events : List Event) :
    let t := (new config).after events
    let m := t.session.metrics
    m.Accounts (Underway.total t.underway) t.deliveries ∧
      (t.underway = [] → m.requests = m.successes + m.failures) ∧
      ((∀ e ∈ events, e.isWhole = true) → t.underway = []) ∧
      ∀ (endpoint : Option Endpoint) (given : Request),
        match endpoint.or t.session.client.endpoint with
        | some _ => Delivery.hadDriver ⟨t.registered, (t.session.send endpoint given).value.2⟩
        | none => (t.session.send endpoint given).value = (t.session, .error .missingDriver) := by
  intro t m
  have haccounts := ((isBalanced_new config).after events).metrics.accounts
  refine ⟨haccounts, fun hnone => ?_, underway_after rfl, fun endpoint given => ?_⟩
  · have hrequests := haccounts.requests
    rw [← haccounts.outcomes, show t.underway = [] from hnone] at hrequests
    exact hrequests
  · cases hchosen : endpoint.or t.session.client.endpoint with
    | none => exact send_of_none hchosen given
    | some chosen =>
      dsimp only
      rw [send_of_some hchosen]
      cases t.session.client.delivered _ <;> rfl

/-- A response transform writes another status, and registers the metrics once more each time. -/
example (config : Config) (given : Request) :
    let events := [.send none given, .connect (.custom fun _ => return .error .notFound),
      .register (.observer .metrics), .send none given,
      .register (.response "fine" (some fun r => ({ r with status := 204 }, [.observer .metrics]))),
      .send none given, .send none given]
    ((new config).after events).session.metrics =
      { requests := 4, successes := 0, failures := 4, classes := [0, 3, 0, 1, 0] } := by
  rfl

end Traffic

end MockHttp
