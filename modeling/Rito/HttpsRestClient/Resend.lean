import Rito.HttpsRestClient.Handlers
import Rito.RiotRestHandler.Region

namespace Rito

-- POST and PATCH are the methods of which a second request is a second change.
def RequestType.isUpdate (type : RequestType) : Bool :=
  type = .httpPost || type = .httpPatch

theorem RequestType.isEnumerator_of_isUpdate {type : RequestType} (h : type.isUpdate = true) :
    type.isEnumerator = true := by
  cases type with
  | unspecified value => simp [isUpdate] at h
  | _ => rfl

-- A request of such a method that went out whole.
def Transmission.isUpdate (transmission : Transmission) : Bool :=
  transmission.sent && (transmission.method = "POST" || transmission.method = "PATCH")

-- No request() call sends such a request twice.
def SentOnce (transmissions : List Transmission) : Prop :=
  transmissions.countP Transmission.isUpdate ≤ 1

instance (transmissions : List Transmission) : Decidable (SentOnce transmissions) :=
  inferInstanceAs (Decidable (_ ≤ _))

namespace HttpsRestClient

variable {client : HttpsRestClient} {type : RequestType} {pathAndQuery : String}
  {headers : List (String × String)} {exchange : Exchange}

theorem request_countP :
    (client.request type pathAndQuery headers exchange).2.countP Transmission.isUpdate =
      if type.isUpdate && exchange.sending.isOk then 1 else 0 := by
  cases hs : exchange.sending with
  | error exception =>
      cases type <;> simp [request, toPocoRequestType, sendRequest, hs, Transmission.isUpdate,
        Except.isOk, Except.toBool]
  | ok _ =>
      cases type <;> simp [request, toPocoRequestType, sendRequest, hs, Transmission.isUpdate,
        RequestType.isUpdate, Except.isOk, Except.toBool]

theorem request_countP_le :
    (client.request type pathAndQuery headers exchange).2.countP Transmission.isUpdate ≤ 1 := by
  rw [request_countP]
  split <;> omega

theorem request_countP_pos :
    0 < (client.request type pathAndQuery headers exchange).2.countP Transmission.isUpdate ↔
      type.isUpdate = true ∧ exchange.sending.isOk = true := by
  rw [request_countP, ← Bool.and_eq_true]
  split <;> simp_all

end HttpsRestClient

namespace RestHandler

variable {σ β ω : Type*} {H : RestHandler σ β ω} {s : σ} {call : RestRequest ω}

-- The request was sent on the client kept and its response was lost, and it
-- goes out on a new client as well.
def Resends (H : RestHandler σ β ω) (s : σ) (call : RestRequest ω) : Prop :=
  call.type.isUpdate = true ∧ (H.client s).isSome = true ∧
    (H.cached call.outcome).sending.isOk = true ∧
    (H.cached call.outcome).receiving.isOk = false ∧
    (H.connect (H.drop s) call.outcome).isOk = true ∧ (H.fresh call.outcome).sending.isOk = true

theorem retrying_singleShot (H : RestHandler σ β ω) :
    H.retrying.SingleShot Transmission.isUpdate where
  kept _ _ _ := HttpsRestClient.request_countP_le
  new _ _ _ := HttpsRestClient.request_countP_le

theorem repeats_iff : H.retrying.Repeats Transmission.isUpdate s call ↔ H.Resends s call := by
  have hnew : (∃ client next, H.connect (H.drop s) call.outcome = .ok (client, next) ∧
      0 < (client.request call.type call.message (H.headers next)
        (H.fresh call.outcome)).2.countP Transmission.isUpdate) ↔
      (H.connect (H.drop s) call.outcome).isOk = true ∧
        call.type.isUpdate = true ∧ (H.fresh call.outcome).sending.isOk = true := by
    simp only [HttpsRestClient.request_countP_pos, Retrying.exists_ok_iff]
  constructor
  · rintro ⟨client, hc, hfail, hsent, hrenewed⟩
    have hsome : H.client s = some client := hc
    have hk : (client.request call.type call.message (H.headers s)
      (H.cached call.outcome)).1.isOk = false := hfail
    obtain ⟨htype, hsending⟩ := HttpsRestClient.request_countP_pos.mp hsent
    obtain ⟨hconnect, -, hfresh⟩ := hnew.mp hrenewed
    have henum : call.type.isEnumerator = true := RequestType.isEnumerator_of_isUpdate htype
    rw [HttpsRestClient.request_isOk, Exchange.answers, henum, hsending] at hk
    exact ⟨htype, by rw [hsome]; rfl, hsending, hk, hconnect, hfresh⟩
  · rintro ⟨htype, hc, hsending, hreceiving, hconnect, hfresh⟩
    obtain ⟨client, hsome⟩ := Option.isSome_iff_exists.mp hc
    have hk : (client.request call.type call.message (H.headers s)
        (H.cached call.outcome)).1.isOk = false := by
      rw [HttpsRestClient.request_isOk, Exchange.answers, hreceiving, Bool.and_false]
    exact ⟨client, hsome, hk, HttpsRestClient.request_countP_pos.mpr ⟨htype, hsending⟩,
      hnew.mpr ⟨hconnect, htype, hfresh⟩⟩

theorem call_sentOnce_iff : SentOnce (Retrying.transmitted (H.retrying.call s call).2.2) ↔
    ¬H.Resends s call := by
  rw [SentOnce, Retrying.call_countP_le_iff H.retrying_singleShot, repeats_iff]

end RestHandler

-- A POST or PATCH request is sent whole on the client kept, its response is not
-- received, and on a new client it is sent whole again.
def LcuRestHandler.Resends (handler : LcuRestHandler) (call : RestRequest LcuRestOutcome) : Prop :=
  call.type.isUpdate = true ∧ handler.client.isSome = true ∧
    call.outcome.cached.sending.isOk = true ∧ call.outcome.cached.receiving.isOk = false ∧
    (call.outcome.parameters.isOk = true ∧ call.outcome.construct.isOk = true) ∧
    call.outcome.fresh.sending.isOk = true

-- The same, and a new client takes a region.
def RiotRestHandler.Resends (handler : RiotRestHandler) : RiotRestCall → Prop
  | .setRegion _ => False
  | .request type _ outcome =>
      type.isUpdate = true ∧ handler.client.isSome = true ∧
        outcome.cached.sending.isOk = true ∧ outcome.cached.receiving.isOk = false ∧
        (handler.region ≠ .none ∧ outcome.construct.isOk = true) ∧
        outcome.fresh.sending.isOk = true

instance (handler : LcuRestHandler) (call : RestRequest LcuRestOutcome) :
    Decidable (handler.Resends call) :=
  inferInstanceAs (Decidable (_ ∧ _))

instance (handler : RiotRestHandler) : ∀ call, Decidable (handler.Resends call)
  | .setRegion _ => isFalse id
  | .request _ _ _ => inferInstanceAs (Decidable (_ ∧ _))

theorem LcuRestHandler.request_sentOnce_iff (handler : LcuRestHandler)
    (call : RestRequest LcuRestOutcome) :
    SentOnce (handler.request call.type call.message call.outcome).2.2 ↔ ¬handler.Resends call := by
  have hresends : restHandler.Resends handler call ↔ handler.Resends call := by
    simp only [RestHandler.Resends, restHandler, attemptReconnect_isOk, Bool.and_eq_true, Resends]
  rw [request_eq, ← hresends]
  exact RestHandler.call_sentOnce_iff

theorem RiotRestHandler.request_sentOnce_iff (handler : RiotRestHandler) (type : RequestType)
    (message : String) (outcome : RequestOutcome) :
    SentOnce (handler.request type message outcome).2.2 ↔
      ¬handler.Resends (.request type message outcome) := by
  have hresends : restHandler.Resends handler ⟨type, message, outcome⟩ ↔
      handler.Resends (.request type message outcome) := by
    simp only [RestHandler.Resends, restHandler, attemptReconnect_isOk, Bool.and_eq_true,
      decide_eq_true_eq, Resends]
    rfl
  rw [request_eq, ← hresends]
  exact RestHandler.call_sentOnce_iff

theorem LcuRestHandler.sentOnce_iff {handler next : LcuRestHandler}
    {calls : List (RestRequest LcuRestOutcome)} {served : List RestServed}
    (h : machine.exec handler calls = some (next, served)) :
    (∀ event ∈ served, SentOnce event.transmissions) ↔
      machine.Along (fun handler call => ¬handler.Resends call) handler calls := by
  refine Machine.forall_output_iff (fun handler call next later hs => ?_) h
  obtain ⟨-, rfl⟩ := Prod.mk.inj (Option.some.inj hs)
  simp only [List.forall_mem_singleton]
  exact handler.request_sentOnce_iff call

theorem RiotRestHandler.sentOnce_iff {handler next : RiotRestHandler} {calls : List RiotRestCall}
    {events : List RiotRestEvent} (h : machine.exec handler calls = some (next, events)) :
    (∀ event ∈ events, SentOnce event.transmissions) ↔
      machine.Along (fun handler call => ¬handler.Resends call) handler calls := by
  refine Machine.forall_output_iff (fun handler call next later hs => ?_) h
  obtain ⟨-, rfl⟩ := Prod.mk.inj (Option.some.inj hs)
  simp only [List.forall_mem_singleton]
  cases call with
  | setRegion region => exact iff_of_true (Nat.zero_le 1) id
  | request type message outcome => exact handler.request_sentOnce_iff type message outcome

-- Over all calls made on either handler, no request() sends a POST or PATCH
-- request twice if and only if none of the calls resends.
theorem updates_sent_once_iff (calls : List (RestRequest LcuRestOutcome)) (apiKey : String)
    (riotCalls : List RiotRestCall) :
    (∀ next served, LcuRestHandler.machine.exec .new calls = some (next, served) →
      ((∀ event ∈ served, SentOnce event.transmissions) ↔
        LcuRestHandler.machine.Along (fun handler call => ¬handler.Resends call) .new calls)) ∧
    ∀ next events, RiotRestHandler.machine.exec (.new apiKey) riotCalls = some (next, events) →
      ((∀ event ∈ events, SentOnce event.transmissions) ↔
        RiotRestHandler.machine.Along (fun handler call => ¬handler.Resends call)
          (.new apiKey) riotCalls) :=
  ⟨fun _ _ => LcuRestHandler.sentOnce_iff, fun _ _ => RiotRestHandler.sentOnce_iff⟩

def responseLost : Exchange where
  sending := .ok ()
  receiving := .error (.other "Connection reset by peer")

def runningClient : Except Thrown LcuParameters := .ok ⟨"MyExampleAuthToken", 12345⟩

-- A lobby is created on a client that answered before, and the response is lost.
def lobbyCreated : List (RestRequest LcuRestOutcome) :=
  [⟨.httpGet, "/lol-lobby/v2/lobby",
      ⟨RiotRestHandler.lost, runningClient, .ok (), RiotRestHandler.delivered⟩⟩,
    ⟨.httpPost, "/lol-lobby/v2/lobby",
      ⟨responseLost, runningClient, .ok (), RiotRestHandler.delivered⟩⟩]

theorem lobbyCreated_twice :
    ∃ next served, LcuRestHandler.machine.exec .new lobbyCreated = some (next, served) ∧
      ¬∀ event ∈ served, SentOnce event.transmissions := by
  refine ⟨_, _, rfl, fun h => ?_⟩
  have htwice := h _ (List.mem_cons_of_mem _ List.mem_cons_self)
  exact absurd htwice (by decide)

-- The response is lost on a client made for the request.
def lobbyOnNewClient : List (RestRequest LcuRestOutcome) :=
  [⟨.httpPost, "/lol-lobby/v2/lobby",
    ⟨RiotRestHandler.lost, runningClient, .ok (), responseLost⟩⟩]

theorem updates_sent_once_iff_newClient :
    ∃ next served, LcuRestHandler.machine.exec .new lobbyOnNewClient = some (next, served) ∧
      ∀ event ∈ served, SentOnce event.transmissions := by
  have h : LcuRestHandler.machine.exec .new lobbyOnNewClient = some (_, _) := rfl
  exact ⟨_, _, h, ((updates_sent_once_iff lobbyOnNewClient "RGAPI-key" []).1 _ _ h).mpr
    (by decide)⟩

end Rito
