import Rito.HttpsRestClient.Reuse

namespace Rito

-- A response is returned, or an exception of the given ones thrown.
def Reports (listed : Exception → Bool) : Except Thrown HttpResponse → Prop
  | .ok _ => True
  | .error (.rito exception) => listed exception = true
  | .error _ => False

-- No client can be made, and a listed exception says so, or one can and a
-- condition holds.
def ReportsOr {κ : Type*} (listed : Exception → Bool) (otherwise : Prop) :
    Except Thrown κ → Prop
  | .error thrown => Reports listed (.error thrown)
  | .ok _ => otherwise

-- The exceptions an error of sending or receiving is documented to be thrown as.
def Exception.isTransfer : Exception → Bool
  | .message _ | .unknown _ => true
  | _ => false

-- A response or a listed exception, which is one of these two where the
-- exchange failed.
def Surfaces (listed : Exception → Bool) (exchangeFails : Prop)
    (result : Except Thrown HttpResponse) : Prop :=
  Reports listed result ∧ (exchangeFails →
    ∃ exception, result = .error (.rito exception) ∧ exception.isTransfer = true)

-- No exception of the exchange gets out as it is: either nothing is sent, or
-- the sending succeeds, and the receiving does too or fails with a message exception.
def Exchange.translated (exchange : Exchange) (type : RequestType) : Prop :=
  type.isEnumerator = true → exchange.sending.isOk = true ∧
    ∀ exception, exchange.receiving = .error exception → ∃ what, exception = .message what

variable {listed : Exception → Bool}

theorem reports_of_isOk {result : Except Thrown HttpResponse} (h : result.isOk = true) :
    Reports listed result := by
  cases result with
  | error thrown => cases h
  | ok response => trivial

namespace HttpsRestClient

variable {client : HttpsRestClient} {type : RequestType} {pathAndQuery : String}
  {headers : List (String × String)} {exchange : Exchange}

theorem receiveResponse_reports_iff {receiving : Except TransportException HttpResponse}
    (hmessage : ∀ what, listed (.message what) = true) :
    Reports listed (receiveResponse receiving) ↔
      ∀ exception, receiving = .error exception → ∃ what, exception = .message what := by
  cases receiving with
  | ok response => simp [receiveResponse, Reports]
  | error exception => cases exception <;> simp [receiveResponse, Reports, hmessage]

theorem exists_method (henum : type.isEnumerator = true) :
    ∃ method, toPocoRequestType type = .ok method := by
  have hok := toPocoRequestType_isOk type
  cases hm : toPocoRequestType type with
  | ok method => exact ⟨method, rfl⟩
  | error exception =>
      rw [hm, henum] at hok
      cases hok

theorem request_of_sent (henum : type.isEnumerator = true) (hs : exchange.sending = .ok ()) :
    (client.request type pathAndQuery headers exchange).1 =
      receiveResponse exchange.receiving := by
  obtain ⟨method, hm⟩ := exists_method henum
  simp only [request, hm, sendRequest, hs]

theorem request_of_unsent {exception : TransportException} (henum : type.isEnumerator = true)
    (hs : exchange.sending = .error exception) :
    (client.request type pathAndQuery headers exchange).1 = .error (.transport exception) := by
  obtain ⟨method, hm⟩ := exists_method henum
  simp only [request, hm, sendRequest, hs]

theorem request_reports_iff (hmessage : ∀ what, listed (.message what) = true)
    (hwrong : ∀ what, listed (.wrongEnumValue what) = true) :
    Reports listed (client.request type pathAndQuery headers exchange).1 ↔
      exchange.translated type := by
  by_cases henum : type.isEnumerator = true
  · cases hs : exchange.sending with
    | error exception =>
        rw [request_of_unsent henum hs]
        refine iff_of_false id fun ht => ?_
        have hsending := (ht henum).1
        rw [hs] at hsending
        cases hsending
    | ok _ =>
        have hsending : exchange.sending.isOk = true := by rw [hs]; rfl
        rw [request_of_sent henum hs, receiveResponse_reports_iff hmessage, Exchange.translated,
          imp_iff_right henum, and_iff_right hsending]
  · rw [request_unspecified (Bool.not_eq_true _ ▸ henum)]
    exact iff_of_true (hwrong _) fun h => absurd h henum

-- What is thrown for a failed exchange, if it is listed at all.
theorem request_isTransfer (henum : type.isEnumerator = true)
    (hfail : exchange.answers type = false) (ht : exchange.translated type) :
    ∃ exception, (client.request type pathAndQuery headers exchange).1 = .error (.rito exception) ∧
      exception.isTransfer = true := by
  obtain ⟨hsending, hreceiving⟩ := ht henum
  rw [Exchange.answers, henum, hsending, Bool.true_and, Bool.true_and] at hfail
  cases hs : exchange.sending with
  | error exception =>
      rw [hs] at hsending
      cases hsending
  | ok _ =>
      rw [request_of_sent henum hs]
      cases hr : exchange.receiving with
      | ok response =>
          rw [hr] at hfail
          cases hfail
      | error exception =>
          obtain ⟨what, rfl⟩ := hreceiving exception hr
          exact ⟨_, rfl, rfl⟩

end HttpsRestClient

namespace RestHandler

variable {σ β ω : Type*} {H : RestHandler σ β ω} {created : σ → Nat} {s : σ}
  {call : RestRequest ω}

-- The client kept answers.
def Answers (H : RestHandler σ β ω) (s : σ) (call : RestRequest ω) : Prop :=
  (H.client s).isSome = true ∧ (H.cached call.outcome).answers call.type = true

-- Without such an answer, the result is that of the request on a new client.
theorem call_result (h : H.Counts created) (s : σ) (call : RestRequest ω) :
    (H.Answers s call ∧ (H.retrying.call s call).1.isOk = true) ∨
      (¬H.Answers s call ∧
        (H.retrying.call s call).1 = (H.retrying.renew (H.drop s) call).1) := by
  have hkept : ∀ client, H.client s = some client → (H.retrying.sendKept s client call).1.isOk =
      (H.cached call.outcome).answers call.type := fun _ _ => HttpsRestClient.request_isOk
  rcases H.retrying.call_cases s call with
    ⟨hc, hr⟩ | ⟨client, response, hc, hk, hr⟩ | ⟨client, thrown, hc, hk, hr⟩
  · have hnone : H.client s = none := hc
    refine Or.inr ⟨fun ha => ?_, ?_⟩
    · rw [Answers, hnone] at ha
      cases ha.1
    · rw [hr, h.drop_none s hnone]
  · have hsome : H.client s = some client := hc
    refine Or.inl ⟨⟨?_, ?_⟩, ?_⟩
    · rw [hsome]
      rfl
    · rw [← hkept client hsome, hk]
      rfl
    · rw [hr]
      rfl
  · have hsome : H.client s = some client := hc
    refine Or.inr ⟨fun ha => ?_, ?_⟩
    · have hok := hkept client hsome
      rw [ha.2, hk] at hok
      cases hok
    · rw [hr]
      rfl

theorem reports_iff (h : H.Counts created) (hmessage : ∀ what, listed (.message what) = true)
    (hwrong : ∀ what, listed (.wrongEnumValue what) = true) :
    Reports listed (H.retrying.call s call).1 ↔ H.Answers s call ∨
      ReportsOr listed ((H.fresh call.outcome).translated call.type)
        (H.connect (H.drop s) call.outcome) := by
  rcases call_result h s call with ⟨ha, hok⟩ | ⟨ha, hr⟩
  · exact iff_of_true (reports_of_isOk hok) (Or.inl ha)
  · rw [hr, or_iff_right ha]
    cases hn : H.connect (H.drop s) call.outcome with
    | error thrown =>
        rw [renew_eq_error hn]
        exact Iff.rfl
    | ok pair =>
        rw [renew_eq_ok hn]
        exact HttpsRestClient.request_reports_iff hmessage hwrong

-- An exchange that fails on a new client is thrown as one of the two exceptions,
-- or as one that is not listed.
theorem reported_isTransfer (h : H.Counts created)
    (hmessage : ∀ what, listed (.message what) = true)
    (hwrong : ∀ what, listed (.wrongEnumValue what) = true) (hf : H.FailsOnNew s call)
    (henum : call.type.isEnumerator = true)
    (hr : Reports listed (H.retrying.call s call).1) :
    ∃ exception, (H.retrying.call s call).1 = .error (.rito exception) ∧
      exception.isTransfer = true := by
  obtain ⟨hkept, hconnect, hfresh⟩ := hf
  have hunanswered : ¬H.Answers s call := by
    rintro ⟨hc, ha⟩
    rw [hkept hc] at ha
    cases ha
  obtain hcall : (H.retrying.call s call).1 = (H.retrying.renew (H.drop s) call).1 :=
    ((call_result h s call).resolve_left fun ha => hunanswered ha.1).2
  rw [reports_iff h hmessage hwrong, or_iff_right hunanswered] at hr
  rw [hcall]
  cases hn : H.connect (H.drop s) call.outcome with
  | error thrown =>
      rw [hn] at hconnect
      cases hconnect
  | ok pair =>
      rw [hn] at hr
      rw [renew_eq_ok hn]
      exact HttpsRestClient.request_isTransfer henum hfresh hr

end RestHandler

-- The exceptions the documentation of Lcu_rest_handler::request() lists.
def LcuRestHandler.documented : Exception → Bool
  | .lcuNotRunning _ | .lcuParameters _ | .pathNotFound _ | .unknown _ | .message _
  | .wrongEnumValue _ => true
  | _ => false

-- The exceptions the documentation of Riot_rest_handler::request() lists.
def RiotRestHandler.documented : Exception → Bool
  | .noRegionSelected _ | .unknown _ | .message _ | .wrongEnumValue _ => true
  | _ => false

-- The client kept answers, the parameters cannot be had for a documented reason,
-- or a new client can be made, on which only the receiving may fail, and with a
-- message exception.
def LcuRestHandler.Translates (handler : LcuRestHandler) (call : RestRequest LcuRestOutcome) :
    Prop :=
  (handler.client.isSome = true ∧ call.outcome.cached.answers call.type = true) ∨
    (∃ exception, call.outcome.parameters = .error (.rito exception) ∧
      documented exception = true) ∨
    call.outcome.parameters.isOk = true ∧ call.outcome.construct.isOk = true ∧
      call.outcome.fresh.translated call.type

-- The same, where what a new client takes is a region.
def RiotRestHandler.Translates (handler : RiotRestHandler) (type : RequestType)
    (outcome : RequestOutcome) : Prop :=
  (handler.client.isSome = true ∧ outcome.cached.answers type = true) ∨
    handler.region = .none ∨ outcome.construct.isOk = true ∧ outcome.fresh.translated type

theorem LcuRestHandler.attemptReconnect_reports_iff {handler : LcuRestHandler}
    {outcome : LcuRestOutcome} {translated : Prop} :
    ReportsOr listed translated (handler.attemptReconnect outcome) ↔
      (∃ exception, outcome.parameters = .error (.rito exception) ∧ listed exception = true) ∨
        outcome.parameters.isOk = true ∧ outcome.construct.isOk = true ∧ translated := by
  unfold attemptReconnect
  cases outcome.parameters with
  | error thrown => cases thrown <;> simp [ReportsOr, Reports, Except.isOk, Except.toBool]
  | ok parameters =>
      cases outcome.construct with
      | error exception => simp [ReportsOr, Reports, Except.isOk, Except.toBool]
      | ok _ => simp [ReportsOr, Except.isOk, Except.toBool]

theorem RiotRestHandler.attemptReconnect_reports_iff {handler : RiotRestHandler}
    {outcome : RequestOutcome} {translated : Prop}
    (hregion : ∀ what, listed (.noRegionSelected what) = true) :
    ReportsOr listed translated (handler.attemptReconnect outcome.construct) ↔
      handler.region = .none ∨ outcome.construct.isOk = true ∧ translated := by
  unfold attemptReconnect
  by_cases hr : handler.region = .none
  · simp [hr, ReportsOr, Reports, noRegionSelected, hregion]
  · cases outcome.construct with
    | error exception => simp [hr, ReportsOr, Reports, Except.isOk, Except.toBool]
    | ok _ => simp [hr, ReportsOr, Except.isOk, Except.toBool]

theorem LcuRestHandler.call_reports_iff (handler : LcuRestHandler)
    (call : RestRequest LcuRestOutcome) :
    Reports documented (restHandler.retrying.call handler call).1 ↔ handler.Translates call := by
  rw [RestHandler.reports_iff restHandler_counts (fun _ => rfl) fun _ => rfl]
  exact or_congr_right attemptReconnect_reports_iff

theorem RiotRestHandler.call_reports_iff (handler : RiotRestHandler) (type : RequestType)
    (message : String) (outcome : RequestOutcome) :
    Reports documented (restHandler.retrying.call handler ⟨type, message, outcome⟩).1 ↔
      handler.Translates type outcome := by
  rw [RestHandler.reports_iff restHandler_counts (fun _ => rfl) fun _ => rfl]
  exact or_congr_right (attemptReconnect_reports_iff fun _ => rfl)

-- In every state of either handler, a request returns a response or throws an
-- exception its documentation lists, which for an error of sending or receiving
-- is one of two, if and only if the exceptions on the way are translated.
theorem errors_documented_iff (lcu : LcuRestHandler) (call : RestRequest LcuRestOutcome)
    (riot : RiotRestHandler) (type : RequestType) (message : String) (outcome : RequestOutcome) :
    (Surfaces LcuRestHandler.documented (lcu.FailsOnNew call ∧ call.type.isEnumerator = true)
        (lcu.request call.type call.message call.outcome).1 ↔ lcu.Translates call) ∧
    (Surfaces RiotRestHandler.documented
        (riot.FailsOnNew ⟨type, message, outcome⟩ ∧ type.isEnumerator = true)
        (riot.request type message outcome).1 ↔ riot.Translates type outcome) := by
  constructor
  · rw [LcuRestHandler.request_eq, ← LcuRestHandler.call_reports_iff]
    refine and_iff_left_of_imp fun hr ⟨hf, henum⟩ => ?_
    rw [← LcuRestHandler.restHandler_failsOnNew] at hf
    exact RestHandler.reported_isTransfer LcuRestHandler.restHandler_counts (fun _ => rfl)
      (fun _ => rfl) hf henum hr
  · rw [RiotRestHandler.request_eq, ← RiotRestHandler.call_reports_iff riot type message]
    refine and_iff_left_of_imp fun hr ⟨hf, henum⟩ => ?_
    rw [← RiotRestHandler.restHandler_failsOnNew] at hf
    exact RestHandler.reported_isTransfer RiotRestHandler.restHandler_counts (fun _ => rfl)
      (fun _ => rfl) hf henum hr

-- The client's port is closed when the first request connects to it.
def connectionRefused : Exchange where
  sending := .error (.other "Connection refused")
  receiving := .error (.other "Not connected")

theorem connectionRefused_thrown :
    let result := (LcuRestHandler.new.request .httpGet "/lol-summoner/v1/current-summoner"
      ⟨RiotRestHandler.lost, .ok ⟨"MyExampleAuthToken", 12345⟩, .ok (), connectionRefused⟩).1
    result = .error (.transport (.other "Connection refused")) ∧
      ¬Reports LcuRestHandler.documented result :=
  ⟨rfl, id⟩

end Rito
