import Rito.HttpsRestClient.Handlers
import Rito.RiotRestHandler.Region

namespace Rito

namespace RestHandler

variable {σ β ω : Type*} {H : RestHandler σ β ω} {created : σ → Nat} {s start : σ}
  {call : RestRequest ω} {calls : List (β ⊕ RestRequest ω)}
  {attempts : List (Attempt HttpsRestClient Thrown HttpResponse Transmission)}

-- No answer came from the client kept, if there was one, and none from the one
-- made instead.
def FailsOnNew (H : RestHandler σ β ω) (s : σ) (call : RestRequest ω) : Prop :=
  ((H.client s).isSome = true → (H.cached call.outcome).answers call.type = false) ∧
    (H.connect (H.drop s) call.outcome).isOk = true ∧
    (H.fresh call.outcome).answers call.type = false

theorem leavesFailed_iff : H.retrying.LeavesFailed s call ↔ H.FailsOnNew s call := by
  have hkept : (∀ client ∈ H.client s, (client.request call.type call.message (H.headers s)
        (H.cached call.outcome)).1.isOk = false) ↔
      ((H.client s).isSome = true → (H.cached call.outcome).answers call.type = false) := by
    cases H.client s with
    | none => simp
    | some client => simp [HttpsRestClient.request_isOk]
  have hnew : (∃ client next, H.connect (H.drop s) call.outcome = .ok (client, next) ∧
        (client.request call.type call.message (H.headers next)
          (H.fresh call.outcome)).1.isOk = false) ↔
      (H.connect (H.drop s) call.outcome).isOk = true ∧
        (H.fresh call.outcome).answers call.type = false := by
    simp only [HttpsRestClient.request_isOk, Retrying.exists_ok_iff]
  exact and_congr hkept hnew

theorem neverReused_iff (h : H.Counts created) (hstart : H.client start = none)
    (he : H.retrying.machine.exec start calls = some (s, attempts)) :
    Retrying.NeverReused HttpsRestClient.serial attempts ↔
      H.retrying.Avoids (fun call => call.type.isEnumerator = true) H.FailsOnNew start calls := by
  have hcond : H.retrying.LeavesFailed = H.FailsOnNew := by
    funext s call
    exact propext leavesFailed_iff
  rw [← hcond]
  exact Retrying.neverReused_iff h.numbered hstart he

end RestHandler

-- The client kept, if there is one, does not answer, and neither does the new
-- client that could be made.
def LcuRestHandler.FailsOnNew (handler : LcuRestHandler) (call : RestRequest LcuRestOutcome) :
    Prop :=
  (handler.client.isSome = true → call.outcome.cached.answers call.type = false) ∧
    (call.outcome.parameters.isOk = true ∧ call.outcome.construct.isOk = true) ∧
    call.outcome.fresh.answers call.type = false

-- The same, and a new client takes a region.
def RiotRestHandler.FailsOnNew (handler : RiotRestHandler) (call : RestRequest RequestOutcome) :
    Prop :=
  (handler.client.isSome = true → call.outcome.cached.answers call.type = false) ∧
    (handler.region ≠ .none ∧ call.outcome.construct.isOk = true) ∧
    call.outcome.fresh.answers call.type = false

theorem LcuRestHandler.restHandler_failsOnNew :
    restHandler.FailsOnNew = LcuRestHandler.FailsOnNew := by
  funext handler call
  simp only [RestHandler.FailsOnNew, restHandler, attemptReconnect_isOk, Bool.and_eq_true,
    FailsOnNew]

theorem RiotRestHandler.restHandler_failsOnNew :
    restHandler.FailsOnNew = RiotRestHandler.FailsOnNew := by
  funext handler call
  simp only [RestHandler.FailsOnNew, restHandler, attemptReconnect_isOk, Bool.and_eq_true,
    decide_eq_true_eq, FailsOnNew]
  rfl

-- Over all calls made on either handler, no client that failed is sent on again
-- if and only if no request with a method is the next one after a request that
-- failed on a new client.
theorem failed_never_reused_iff (calls : List (RestRequest LcuRestOutcome)) (apiKey : String)
    (riotCalls : List RiotRestCall) :
    (∃ next served attempts, LcuRestHandler.machine.exec .new calls = some (next, served) ∧
      LcuRestHandler.restHandler.retrying.machine.exec .new (calls.map .inr) =
        some (next, attempts) ∧
      served.flatMap RestServed.transmissions = attempts.flatMap Attempt.transmissions ∧
      (Retrying.NeverReused HttpsRestClient.serial attempts ↔
        LcuRestHandler.restHandler.retrying.Avoids (fun call => call.type.isEnumerator = true)
          LcuRestHandler.FailsOnNew .new (calls.map .inr))) ∧
    ∃ next events attempts,
      RiotRestHandler.machine.exec (.new apiKey) riotCalls = some (next, events) ∧
      RiotRestHandler.restHandler.retrying.machine.exec (.new apiKey)
        (riotCalls.map RiotRestCall.split) = some (next, attempts) ∧
      events.flatMap RiotRestEvent.transmissions = attempts.flatMap Attempt.transmissions ∧
      (Retrying.NeverReused HttpsRestClient.serial attempts ↔
        RiotRestHandler.restHandler.retrying.Avoids (fun call => call.type.isEnumerator = true)
          RiotRestHandler.FailsOnNew (.new apiKey) (riotCalls.map RiotRestCall.split)) := by
  constructor
  · obtain ⟨next, served, attempts, he, hr, hsame⟩ := LcuRestHandler.new.exec_retrying calls
    refine ⟨next, served, attempts, he, hr, hsame, ?_⟩
    rw [← LcuRestHandler.restHandler_failsOnNew]
    exact RestHandler.neverReused_iff LcuRestHandler.restHandler_counts rfl hr
  · obtain ⟨next, events, attempts, he, hr, hsame⟩ :=
      (RiotRestHandler.new apiKey).exec_retrying riotCalls
    refine ⟨next, events, attempts, he, hr, hsame, ?_⟩
    rw [← RiotRestHandler.restHandler_failsOnNew]
    exact RestHandler.neverReused_iff RiotRestHandler.restHandler_counts rfl hr

def timedOut : Exchange where
  sending := .ok ()
  receiving := .error (.timeout "Timeout")

-- The response to the first request times out, and the second is answered.
def afterTimeout : List (RestRequest LcuRestOutcome) :=
  [⟨.httpGet, "/lol-summoner/v1/current-summoner",
      ⟨RiotRestHandler.lost, .ok ⟨"MyExampleAuthToken", 12345⟩, .ok (), timedOut⟩⟩,
    ⟨.httpGet, "/lol-gameflow/v1/session",
      ⟨RiotRestHandler.delivered, .ok ⟨"MyExampleAuthToken", 12345⟩, .ok (),
        RiotRestHandler.lost⟩⟩]

theorem afterTimeout_reused :
    ∃ next attempts, LcuRestHandler.restHandler.retrying.machine.exec .new
        (afterTimeout.map .inr) = some (next, attempts) ∧
      ¬Retrying.NeverReused HttpsRestClient.serial attempts := by
  refine ⟨_, _, rfl, fun h => ?_⟩
  have hsecond := h [_] _ [] rfl (List.cons_ne_nil _ _) _ List.mem_cons_self rfl
  cases hsecond

end Rito
