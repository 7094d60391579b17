import MockHttp.Proofs.Traced
import MockHttp.Server.Dispatch

/-!
# The steps of an answer

What a server does on the way to an outcome, besides deciding it: it logs events, lets time pass,
and calls the handler of one route or the fallback. `Traced.Reports` says that nothing is done but
to log events with some messages. The scan of the routes and the end of a handler are of this kind,
and so is what is logged around the call of a handler.

Results:
1. `reports_choose`, `reports_conclude`, `reports_opening`, `reports_closing`: the parts of a
   dispatch that only report.
2. `steps_pause`: what is done between them besides the calls.
-/

namespace MockHttp

open Http Template

/-- The log event that a step of one's own is. What drivers log that were handed over is theirs. -/
def Step.ownEvent? : Step → Option Log.Event
  | log event => some event
  | _ => none

/-! ## Reports -/

/-- The step logs an event with one of the messages. -/
def Step.Reports (messages : List String) : Step → Prop
  | log event => event.message ∈ messages
  | _ => False

/-- Every step logs an event with one of the messages. -/
def Traced.Reports {α : Type} (a : Traced Step α) (messages : List String) : Prop :=
  ∀ step ∈ a.steps, step.Reports messages

namespace Traced

variable {α β : Type} {messages : List String}

@[simp] theorem reports_pure (a : α) : (Pure.pure a : Traced Step α).Reports messages :=
  fun _ h => absurd h List.not_mem_nil

@[simp] theorem reports_bind {a : Traced Step α} {f : α → Traced Step β} :
    (a >>= f).Reports messages ↔ a.Reports messages ∧ (f a.value).Reports messages := by
  simp only [Reports, steps_bind, List.mem_append, or_imp, forall_and]

@[simp] theorem reports_emit {level : Log.Level} {origin : Log.Origin} {message : String}
    {fields : List (String × Log.FieldValue)} :
    (Step.emit level origin message fields).Reports messages ↔ message ∈ messages := by
  simp [Reports, Step.emit, Log.Logged.emit, step, Step.Reports]

/-- A choice among the steps that takes no event takes nothing of a report. -/
theorem Reports.filter_eq_nil {a : Traced Step α} (h : a.Reports messages) {p : Step → Bool}
    (hp : ∀ event, p (.log event) = false) : a.steps.filter p = [] := by
  refine List.filter_eq_nil_iff.mpr fun step hstep => ?_
  have hreports := h step hstep
  cases step with
  | log event => exact Bool.eq_false_iff.mp (hp event)
  | _ => exact hreports.elim

/-- A choice among the steps that takes none of a driver that was handed over. -/
theorem filter_outside_eq_nil (a : Traced Step α) {p : Step → Bool}
    (hp : ∀ step, p (.outside step) = false) : (a.mapSteps Step.outside).steps.filter p = [] :=
  List.filter_eq_nil_iff.mpr fun _ hstep => by
    obtain ⟨step, -, rfl⟩ := List.mem_map.mp hstep
    exact Bool.eq_false_iff.mp (hp step)

theorem filterMap_ownEvent?_outside (a : Traced Step α) :
    (a.mapSteps Step.outside).steps.filterMap Step.ownEvent? = [] :=
  List.filterMap_eq_nil_iff.mpr fun _ hstep => by
    obtain ⟨step, -, rfl⟩ := List.mem_map.mp hstep
    rfl

end Traced

namespace Server

/-! ## Scans and the ends of handlers -/

/-- What a scan logs at a route that matches under another method. -/
def choosing : List String := ["Path matched under another method, continuing"]

theorem reports_choose (request : Request) (method : Method) (seen : Bool)
    (routes : List (Route × Nat)) : (choose request method seen routes).Reports choosing := by
  induction routes generalizing seen with
  | nil => exact Traced.reports_pure _
  | cons head rest ih =>
    obtain ⟨route, number⟩ := head
    unfold choose
    split
    · exact Traced.reports_pure _
    · exact ih seen
    · split
      · exact Traced.reports_pure _
      · exact Traced.reports_bind.mpr ⟨Traced.reports_emit.mpr (by simp [choosing]), ih true⟩

/-- What is logged of a handler that does not finish or leaves a broken body. -/
def concluding : List String :=
  ["Handler declared JSON but body does not parse", "Mock handler failed", "Mock handler panicked"]

theorem reports_conclude (request : Request) (d : Draft) (ending : Ending) :
    (conclude request d ending).Reports concluding := by
  cases ending with
  | finished =>
    unfold conclude Draft.send
    dsimp only
    split
    · exact Traced.reports_pure _
    · simp [concluding]
  | failed message => simp [conclude, concluding]
  | panicked message => simp [conclude, concluding]

/-! ## Answers -/

/-- What is logged before and after the handler of an answer. -/
def answering : List String :=
  ["Dispatching to mock route", "Mock request payload", "Mock response", "Mock failure"]

theorem reports_opening (s : Server) (method : Method) (request : Request) (found : RouteMatch) :
    (s.opening method request found).Reports answering := by
  unfold opening
  cases s.logPayloads <;> simp [answering]

theorem reports_closing (request : Request) (outcome : Outcome) :
    (closing request outcome).Reports answering := by
  cases outcome <;> simp [closing, answering]

theorem steps_pause (others : Interference) (s : Server) :
    (s.pause others).steps = if s.latency.isOff then [] else [.wait s.latency.maxDelay] := by
  unfold pause await
  cases s.latency.isOff <;> rfl

end Server

end MockHttp
