import Rito.LcuRestHandler
import Rito.Retry
import Rito.RiotRestHandler

namespace Rito

-- Every step of the exchange succeeds, and there is a method to send with.
def Exchange.answers (exchange : Exchange) (type : RequestType) : Bool :=
  type.isEnumerator && exchange.sending.isOk && exchange.receiving.isOk

namespace HttpsRestClient

variable {client : HttpsRestClient} {type : RequestType} {pathAndQuery : String}
  {headers : List (String × String)} {exchange : Exchange}

theorem toPocoRequestType_isOk (type : RequestType) :
    (toPocoRequestType type).isOk = type.isEnumerator := by
  cases type <;> rfl

theorem receiveResponse_isOk (receiving : Except TransportException HttpResponse) :
    (receiveResponse receiving).isOk = receiving.isOk := by
  cases receiving with
  | ok response => rfl
  | error exception => cases exception <;> rfl

theorem request_isOk :
    (client.request type pathAndQuery headers exchange).1.isOk = exchange.answers type := by
  rw [Exchange.answers, ← toPocoRequestType_isOk, ← receiveResponse_isOk]
  unfold request
  cases toPocoRequestType type with
  | error exception => rfl
  | ok method =>
      unfold sendRequest
      cases exchange.sending with
      | error exception => rfl
      | ok _ => rfl

theorem request_ne_nil :
    (client.request type pathAndQuery headers exchange).2 ≠ [] ↔ type.isEnumerator = true := by
  rw [← List.length_pos_iff, request_length]
  split <;> simp_all

end HttpsRestClient

-- What the two handlers differ in: the client they keep, how they make a new
-- one, and the headers they send.
structure RestHandler (σ β ω : Type*) where
  client : σ → Option HttpsRestClient
  drop : σ → σ
  connect : σ → ω → Except Thrown (HttpsRestClient × σ)
  headers : σ → List (String × String)
  cached : ω → Exchange
  fresh : ω → Exchange
  other : σ → β → σ

namespace RestHandler

variable {σ β ω : Type*} {H : RestHandler σ β ω} {created : σ → Nat} {s : σ} {call : RestRequest ω}

def retrying (H : RestHandler σ β ω) :
    Retrying σ β (RestRequest ω) HttpsRestClient Thrown HttpResponse Transmission where
  client := H.client
  drop := H.drop
  connect s call := H.connect s call.outcome
  sendKept s client call :=
    client.request call.type call.message (H.headers s) (H.cached call.outcome)
  sendNew s client call :=
    client.request call.type call.message (H.headers s) (H.fresh call.outcome)
  other := H.other

theorem renew_eq_error {thrown : Thrown} (hn : H.connect s call.outcome = .error thrown) :
    H.retrying.renew s call = (.error thrown, s, []) := by
  have hc : H.retrying.connect s call = .error thrown := hn
  rw [Retrying.renew, hc]

theorem renew_eq_ok {client : HttpsRestClient} {next : σ}
    (hn : H.connect s call.outcome = .ok (client, next)) :
    H.retrying.renew s call =
      let sent := client.request call.type call.message (H.headers next) (H.fresh call.outcome)
      (sent.1, next, [⟨client, sent.1, sent.2⟩]) := by
  have hc : H.retrying.connect s call = .ok (client, next) := hn
  rw [Retrying.renew, hc]
  rfl

-- request() of either handler, from its second if on and as a whole.
def reconnectAndRequest (H : RestHandler σ β ω) (s : σ) (call : RestRequest ω) :
    Except Thrown HttpResponse × σ × List Transmission :=
  match H.client s with
  | some _ => (.error (.rito (.unknown "Unexpected error")), s, [])
  | none =>
      match H.connect s call.outcome with
      | .error thrown => (.error thrown, s, [])
      | .ok (client, next) =>
          let (result, transmissions) :=
            client.request call.type call.message (H.headers next) (H.fresh call.outcome)
          (result, next, transmissions)

def request (H : RestHandler σ β ω) (s : σ) (call : RestRequest ω) :
    Except Thrown HttpResponse × σ × List Transmission :=
  match H.client s with
  | none => H.reconnectAndRequest s call
  | some client =>
      match client.request call.type call.message (H.headers s) (H.cached call.outcome) with
      | (.ok response, transmissions) => (.ok response, s, transmissions)
      | (.error _, transmissions) =>
          let (result, next, later) := H.reconnectAndRequest (H.drop s) call
          (result, next, transmissions ++ later)

theorem reconnectAndRequest_eq (hc : H.client s = none) :
    H.reconnectAndRequest s call =
      let renewed := H.retrying.renew s call
      (renewed.1, renewed.2.1, Retrying.transmitted renewed.2.2) := by
  unfold reconnectAndRequest
  rw [hc]
  cases hn : H.connect s call.outcome with
  | error thrown =>
      rw [renew_eq_error hn]
      rfl
  | ok pair =>
      rw [renew_eq_ok hn]
      simp only [Retrying.transmitted, List.flatMap_singleton]

-- request() is the retrying call.
theorem request_eq (hd : H.client (H.drop s) = none) :
    H.request s call =
      let called := H.retrying.call s call
      (called.1, called.2.1, Retrying.transmitted called.2.2) := by
  unfold request
  cases hc : H.client s with
  | none =>
      have hnone : H.retrying.client s = none := hc
      rw [Retrying.call_of_none hnone]
      exact reconnectAndRequest_eq hc
  | some client =>
      have hsome : H.retrying.client s = some client := hc
      rcases hk : client.request call.type call.message (H.headers s) (H.cached call.outcome) with
        ⟨thrown | response, sent⟩
      · have hkept : H.retrying.sendKept s client call = (.error thrown, sent) := hk
        rw [Retrying.call_of_failed hsome hkept]
        simp only [hk, reconnectAndRequest_eq hd, Retrying.transmitted, List.flatMap_cons]
        rfl
      · have hkept : H.retrying.sendKept s client call = (.ok response, sent) := hk
        rw [Retrying.call_of_answered hsome hkept]
        simp only [hk, Retrying.transmitted, List.flatMap_singleton]

-- New clients are numbered in the order they are made.
structure Counts (H : RestHandler σ β ω) (created : σ → Nat) : Prop where
  drop_client : ∀ s, H.client (H.drop s) = none
  drop_created : ∀ s, created (H.drop s) = created s
  drop_none : ∀ s, H.client s = none → H.drop s = s
  connect : ∀ {s outcome client next}, H.connect s outcome = .ok (client, next) →
    client.serial = created s ∧ created next = created s + 1 ∧ H.client next = some client
  other_client : ∀ s b, H.client (H.other s b) = H.client s
  other_created : ∀ s b, created (H.other s b) = created s

theorem Counts.numbered (h : H.Counts created) :
    H.retrying.Numbered HttpsRestClient.serial created fun call => call.type.isEnumerator = true where
  drop_client := h.drop_client
  drop_made := h.drop_created
  drop_none := h.drop_none
  connect := h.connect
  other_client := h.other_client
  other_made := h.other_created
  sendKept _ _ _ := HttpsRestClient.request_ne_nil
  answered s client call hok := by
    have hk : (client.request call.type call.message (H.headers s) (H.cached call.outcome)).1.isOk =
      true := hok
    rw [HttpsRestClient.request_isOk, Exchange.answers] at hk
    simp only [Bool.and_eq_true] at hk
    exact hk.1.1

end RestHandler

namespace LcuRestHandler

variable {handler : LcuRestHandler} {type : RequestType} {message : String}
  {outcome : LcuRestOutcome}

def restHandler : RestHandler LcuRestHandler Empty LcuRestOutcome where
  client := client
  drop := resetClient
  connect := attemptReconnect
  headers _ := []
  cached := LcuRestOutcome.cached
  fresh := LcuRestOutcome.fresh
  other _ call := call.elim

theorem attemptReconnect_isOk : (handler.attemptReconnect outcome).isOk =
    (outcome.parameters.isOk && outcome.construct.isOk) := by
  unfold attemptReconnect
  cases outcome.parameters with
  | error thrown => rfl
  | ok parameters =>
      cases outcome.construct with
      | error exception => rfl
      | ok _ => rfl

theorem restHandler_counts : restHandler.Counts LcuRestHandler.created where
  drop_client _ := rfl
  drop_created _ := rfl
  drop_none handler hc := by
    have hnone : handler.client = none := hc
    show { handler with client := none } = handler
    rw [← hnone]
  connect := by
    intro handler outcome client next h
    have hok : handler.attemptReconnect outcome = .ok (client, next) := h
    unfold attemptReconnect at hok
    split at hok
    · cases hok
    · split at hok
      · cases hok
      · obtain ⟨rfl, rfl⟩ := Prod.mk.inj (Except.ok.inj hok)
        exact ⟨rfl, rfl, rfl⟩
  other_client _ call := call.elim
  other_created _ call := call.elim

theorem reconnectAndRequest_eq (handler : LcuRestHandler) :
    handler.reconnectAndRequest type message outcome =
      restHandler.reconnectAndRequest handler ⟨type, message, outcome⟩ := by
  simp only [reconnectAndRequest, RestHandler.reconnectAndRequest, restHandler]
  cases handler.client with
  | some client => rfl
  | none => cases handler.attemptReconnect outcome <;> rfl

theorem request_eq (handler : LcuRestHandler) (type : RequestType) (message : String)
    (outcome : LcuRestOutcome) : handler.request type message outcome =
      let called := restHandler.retrying.call handler ⟨type, message, outcome⟩
      (called.1, called.2.1, Retrying.transmitted called.2.2) := by
  have hrequest : handler.request type message outcome =
      restHandler.request handler ⟨type, message, outcome⟩ := by
    simp only [request, RestHandler.request, reconnectAndRequest_eq]
    rfl
  rw [hrequest]
  exact RestHandler.request_eq rfl

-- The handler's machine and the retrying one go through the same states with
-- the same transmissions.
theorem exec_retrying (handler : LcuRestHandler) (calls : List (RestRequest LcuRestOutcome)) :
    ∃ next served attempts, machine.exec handler calls = some (next, served) ∧
      restHandler.retrying.machine.exec handler (calls.map .inr) = some (next, attempts) ∧
      served.flatMap RestServed.transmissions = attempts.flatMap Attempt.transmissions := by
  refine Machine.exec_agree (fun handler call => ?_) handler calls
  let called := restHandler.retrying.call handler call
  refine ⟨called.2.1, [⟨called.1, _⟩], called.2.2, ?_, rfl, List.flatMap_singleton ..⟩
  simp only [machine, handler.request_eq call.type call.message call.outcome]
  rfl

end LcuRestHandler

namespace RiotRestHandler

variable {handler : RiotRestHandler} {type : RequestType} {message : String}
  {outcome : RequestOutcome}

def restHandler : RestHandler RiotRestHandler Region RequestOutcome where
  client := client
  drop := resetClient
  connect handler outcome := handler.attemptReconnect outcome.construct
  headers handler := [("X-Riot-Token", handler.apiKey)]
  cached := RequestOutcome.cached
  fresh := RequestOutcome.fresh
  other := setRegion

theorem attemptReconnect_isOk : (handler.attemptReconnect outcome.construct).isOk =
    (handler.region ≠ .none && outcome.construct.isOk) := by
  unfold attemptReconnect
  by_cases hr : handler.region = .none
  · simp [hr, Except.isOk, Except.toBool]
  · cases outcome.construct <;> simp [hr, Except.isOk, Except.toBool]

theorem restHandler_counts : restHandler.Counts RiotRestHandler.created where
  drop_client _ := rfl
  drop_created _ := rfl
  drop_none handler hc := by
    have hnone : handler.client = none := hc
    show { handler with client := none } = handler
    rw [← hnone]
  connect := by
    intro handler outcome client next h
    have hok : handler.attemptReconnect outcome.construct = .ok (client, next) := h
    unfold attemptReconnect at hok
    split at hok
    · cases hok
    · split at hok
      · cases hok
      · obtain ⟨rfl, rfl⟩ := Prod.mk.inj (Except.ok.inj hok)
        exact ⟨rfl, rfl, rfl⟩
  other_client _ _ := rfl
  other_created _ _ := rfl

theorem reconnectAndSend_eq (handler : RiotRestHandler) :
    handler.reconnectAndSend type message outcome =
      restHandler.reconnectAndRequest handler ⟨type, message, outcome⟩ := by
  simp only [reconnectAndSend, RestHandler.reconnectAndRequest, restHandler]
  cases handler.client with
  | some client => rfl
  | none => cases handler.attemptReconnect outcome.construct <;> rfl

theorem request_eq (handler : RiotRestHandler) (type : RequestType) (message : String)
    (outcome : RequestOutcome) : handler.request type message outcome =
      let called := restHandler.retrying.call handler ⟨type, message, outcome⟩
      (called.1, called.2.1, Retrying.transmitted called.2.2) := by
  have hrequest : handler.request type message outcome =
      restHandler.request handler ⟨type, message, outcome⟩ := by
    simp only [request, RestHandler.request, reconnectAndSend_eq]
    rfl
  rw [hrequest]
  exact RestHandler.request_eq rfl

end RiotRestHandler

-- The calls of the handler as settings and requests.
def RiotRestCall.split : RiotRestCall → Region ⊕ RestRequest RequestOutcome
  | .setRegion region => .inl region
  | .request type message outcome => .inr { type, message, outcome }

def RiotRestEvent.transmissions : RiotRestEvent → List Transmission
  | .regionSet _ => []
  | .served _ transmissions => transmissions

namespace RiotRestHandler

theorem exec_retrying (handler : RiotRestHandler) (calls : List RiotRestCall) :
    ∃ next events attempts, machine.exec handler calls = some (next, events) ∧
      restHandler.retrying.machine.exec handler (calls.map RiotRestCall.split) =
        some (next, attempts) ∧
      events.flatMap RiotRestEvent.transmissions = attempts.flatMap Attempt.transmissions := by
  refine Machine.exec_agree (fun handler call => ?_) handler calls
  cases call with
  | setRegion region => exact ⟨_, _, [], rfl, rfl, rfl⟩
  | request type message outcome =>
      let called := restHandler.retrying.call handler ⟨type, message, outcome⟩
      refine ⟨called.2.1, [.served called.1 _], called.2.2, ?_, rfl, List.flatMap_singleton ..⟩
      simp only [machine, serve, handler.request_eq type message outcome]
      rfl

end RiotRestHandler

end Rito
