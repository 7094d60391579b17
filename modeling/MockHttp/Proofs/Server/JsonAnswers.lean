import MockHttp.Proofs.Json.RoundTrip
import MockHttp.Proofs.Server.Outcomes

/-!
# Answers in JSON

A handler that writes a JSON value, and after it leaves the body and the content type as they are,
is answered with this value, whatever it wrote before. The one exception is a value in which arrays
and objects are nested too deeply to be read: its text is sent back as no JSON.

Results:
1. `Draft.Keeps.payload?_eq`: what the draft of such a handler stands for.
2. `dispatch_json`: how a request for such a handler is answered.
-/

namespace MockHttp.Server

open Http

/-! ## Drafts that keep a value -/

/-- The text of a value is not blank. -/
theorem not_blank_compact {v : Json} (hv : v.IsIntegral) :
    v.compact.toList.all Text.isBlank = false := by
  have hfirst : ∀ c ∈ Json.firstChars, Text.isBlank c = false := by
    simp [Json.firstChars, Text.isBlank, Unicode.whiteSpace, Unicode.Ranges.contains]
  obtain ⟨c, cs, hcs, hc⟩ := Json.compactText_eq_cons hv
  rw [Json.compact, String.toList_ofList, hcs, List.all_cons, hfirst c hc, Bool.false_and]

/-- The draft was given a JSON value after some writes, and those after it left the body and the
content type as they were. -/
def Draft.Keeps (d : Draft) (v : Json) : Prop :=
  ∃ earlier later : List Write,
    let written := (earlier.foldl Draft.put {}).setJson v
    d = later.foldl Draft.put written ∧ d.body = written.body ∧
      d.headers.get? contentType = written.headers.get? contentType

namespace Draft

variable {d : Draft} {v : Json}

theorem Keeps.body_eq (hd : d.Keeps v) : d.body = v.compact := by
  obtain ⟨earlier, later, -, hbody, -⟩ := hd
  exact hbody

/-- The body is announced as JSON. -/
theorem Keeps.isJson_eq (hd : d.Keeps v) : d.isJson = true := by
  obtain ⟨earlier, later, -, -, htype⟩ := hd
  have hset := Headers.get?_insert_self (earlier.foldl Draft.put {}).headers contentType jsonMedia
  have hget : d.headers.get? contentType = some jsonMedia := htype.trans hset
  rw [isJson, hget]
  decide

/-- The draft stands for the value, if that is not nested too deeply. -/
theorem Keeps.payload?_eq (hd : d.Keeps v) (hv : v.IsIntegral) :
    d.payload? = if v.depth ≤ Json.maxDepth then some v else none := by
  have hjson : ¬¬d.isJson = true := not_not_intro hd.isJson_eq
  have htext : ¬v.compact.toList.all Text.isBlank = true := by simp [not_blank_compact hv]
  rw [payload?, if_neg hjson, hd.body_eq, if_neg htext, Json.parse?_compact hv]

/-- The value is sent with the status and the headers of the draft. -/
theorem Keeps.value_send (hd : d.Keeps v) (hv : v.IsIntegral) (hdepth : v.depth ≤ Json.maxDepth) :
    d.send.value = if d.status < 400 then .ok (.new d.status d.headers v)
      else .error (.business (.new d.status d.headers v)) := by
  rw [send, hd.payload?_eq hv, if_pos hdepth]
  show (if decide (d.status < 400) = true then Except.ok _ else Except.error _) = _
  simp only [decide_eq_true_eq]

/-- A value that is nested too deeply is reported as no JSON. -/
theorem Keeps.value_send_of_deep (hd : d.Keeps v) (hv : v.IsIntegral)
    (hdepth : ¬v.depth ≤ Json.maxDepth) :
    d.send.value = .error (.invalidBody d.headers d.body) := by
  rw [send, hd.payload?_eq hv, if_neg hdepth]
  rfl

end Draft

/-! ## Answers -/

section

variable {config : Config} {rs : List Registration} {s : Server} {given : Request} {d : Draft}
  {v : Json}

/-- A handler that finishes, and keeps the JSON value that it wrote, is answered with this value: as
a success if its status is below 400, and as a failure of business otherwise. If arrays and objects
are nested more than 127 levels deep, the body is reported as no JSON and is kept. -/
theorem dispatch_json (hs : Reached config rs s) (hwrote : Wrote rs s given d .finished)
    (hv : v.IsIntegral) (hd : d.Keeps v) :
    (s.dispatch given).value.2 =
      if v.depth ≤ 127 then
        if d.status < 400 then .ok ⟨d.status, statusText d.status, d.headers, v⟩
        else .error ⟨.business, ⟨d.status, statusText d.status, d.headers, v⟩⟩
      else .error ⟨.invalidBody, ⟨500, statusText 500, d.headers, .string v.compact⟩⟩ := by
  obtain ⟨request, hvalue⟩ := value_of_wrote hs hwrote
  rw [hvalue, conclude]
  by_cases hdepth : v.depth ≤ 127
  · rw [if_pos hdepth]
    exact hd.value_send hv hdepth
  · rw [if_neg hdepth, ← hd.body_eq]
    exact hd.value_send_of_deep hv hdepth

end

/-- A value with members, items, integers and a text that has to be escaped. -/
def pots : Json :=
  .object [("pots", .array [.int 1, .int (-2), .array []]), ("tea", .string "green\n\"tea\"")]

theorem isIntegral_pots : pots.IsIntegral := by
  refine .object (by decide) fun member hmember => ?_
  rcases List.mem_pair.mp hmember with rfl | rfl
  · refine .array fun v hv => ?_
    simp only [List.mem_cons, List.not_mem_nil, or_false] at hv
    rcases hv with rfl | rfl | rfl
    · exact .int (by decide) (by decide)
    · exact .int (by decide) (by decide)
    · exact .array nofun
  · exact .string _

/-- A handler that writes something else before the value, and a status after it. -/
def teapot : Handler := fun _ d =>
  ((((d.write "tea").setHeader "Content-Type" "text/plain").setJson pots).setStatus 418, .finished)

/-- What it has written when it has finished. -/
def teapotDraft : Draft := ⟨418, ⟨[("content-type", "application/json")]⟩, pots.compact⟩

theorem eq_teapotDraft (request : Request) : teapot request {} = (teapotDraft, .finished) := by
  have hheaders : (Headers.empty.insert "Content-Type" "text/plain").insert contentType jsonMedia =
      ⟨[("content-type", "application/json")]⟩ := by decide
  exact congrArg (fun headers => (Draft.mk 418 headers pots.compact, Ending.finished)) hheaders

theorem keeps_teapotDraft : teapotDraft.Keeps pots :=
  ⟨[.more "tea", .header "Content-Type" "text/plain"], [.status 418],
    (congrArg (·.1) (eq_teapotDraft getA)).symm, rfl, by decide⟩

theorem dispatch_json_pots :
    ((soleServer teapot).dispatch getA).value.2 = .error ⟨.business, ⟨418, "418 i'm a teapot",
      ⟨[("content-type", "application/json")]⟩, pots⟩⟩ := by
  have hdepth : pots.depth ≤ 127 := by
    simp [pots, Json.depth, Json.itemsDepth, Json.membersDepth]
  have hstatus : ¬teapotDraft.status < 400 := by simp [teapotDraft]
  have htext : statusText 418 = "418 i'm a teapot" := by decide
  rw [dispatch_json (reached_sole teapot) (wrote_sole eq_teapotDraft) isIntegral_pots
    keeps_teapotDraft, if_pos hdepth, if_neg hstatus, ← htext]
  rfl

/-- Arrays of one item each, one inside the other. -/
def nested : Nat → Json
  | 0 => .null
  | n + 1 => .array [nested n]

theorem isIntegral_nested (n : Nat) : (nested n).IsIntegral := by
  induction n with
  | zero => exact .null
  | succ n ih => exact .array fun v hv => List.mem_singleton.mp hv ▸ ih

theorem depth_nested (n : Nat) : (nested n).depth = n := by
  induction n with
  | zero => rfl
  | succ n ih => rw [nested, Json.depth, Json.itemsDepth, Json.itemsDepth, ih, Nat.max_zero]

/-- A handler that writes a value. -/
def writing (v : Json) : Handler := fun _ d => (d.setJson v, .finished)

theorem keeps_writing (v : Json) : (Draft.setJson {} v).Keeps v := ⟨[], [], rfl, rfl, rfl⟩

/-- Arrays that are nested 128 levels deep are not what the handler is answered with. -/
theorem nested_not_answered :
    ¬∀ {config : Config} {rs : List Registration} {s : Server} {given : Request} {d : Draft}
      {v : Json}, Reached config rs s → Wrote rs s given d .finished → v.IsIntegral → d.Keeps v →
        (s.dispatch given).value.2 =
          if d.status < 400 then .ok ⟨d.status, statusText d.status, d.headers, v⟩
          else .error ⟨.business, ⟨d.status, statusText d.status, d.headers, v⟩⟩ := by
  intro hall
  have hint := isIntegral_nested 128
  have hdeep : ¬(nested 128).depth ≤ Json.maxDepth := by
    rw [depth_nested]
    decide
  have hkeeps := keeps_writing (nested 128)
  have hwrote : Wrote [soleRegistration (writing (nested 128))] (soleServer (writing (nested 128)))
      getA (Draft.setJson {} (nested 128)) .finished := wrote_sole fun _ => rfl
  obtain ⟨request, hvalue⟩ := value_of_wrote (reached_sole _) hwrote
  have hanswer := hall (reached_sole _) hwrote hint hkeeps
  rw [hvalue, conclude, hkeeps.value_send_of_deep hint hdeep, if_pos (by decide)] at hanswer
  cases hanswer

end MockHttp.Server
