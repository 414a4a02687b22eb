import Rito.RiotRestHandler
import Rito.Trace

namespace Rito

theorem getHostByRegion_injective : Function.Injective getHostByRegion := by
  intro first second h
  cases first <;> cases second <;> first | rfl | simp [getHostByRegion] at h

-- The region most recently set: Region::none when none ever was.
def lastRegion (events : List RiotRestEvent) : Region :=
  events.foldl (fun region event => match event with
    | .regionSet new => new
    | .served _ _ => region) .none

-- Every transmission of a request goes to the region's host with the API key;
-- without a region there is none, and the documented exception is thrown.
def RiotRestEvent.Routed (apiKey : String) (region : Region) : RiotRestEvent → Prop
  | .regionSet _ => True
  | .served result transmissions =>
      (∀ transmission ∈ transmissions, transmission.host = getHostByRegion region ∧
        transmission.headers = [("X-Riot-Token", apiKey)]) ∧
      (region = .none → transmissions = [] ∧
        ∃ what, result = .error (.rito (.noRegionSelected what)))

namespace RiotRestHandler

variable {handler next : RiotRestHandler} {client : HttpsRestClient} {type : RequestType}
  {message apiKey : String} {outcome : RequestOutcome} {call : RiotRestCall}
  {calls : List RiotRestCall} {event : RiotRestEvent} {events : List RiotRestEvent}
  {transmission : Transmission}

-- A request with a method that finds a client finds one for the region set.
def ClientFits (handler : RiotRestHandler) : RiotRestCall → Prop
  | .setRegion _ => True
  | .request type _ _ => type.isEnumerator = true →
      ∀ client ∈ handler.client, client.host = getHostByRegion handler.region

instance (handler : RiotRestHandler) : ∀ call, Decidable (handler.ClientFits call)
  | .setRegion _ => isTrue trivial
  | .request _ _ _ => inferInstanceAs (Decidable (_ → ∀ client ∈ handler.client, _))

-- What the handler and the calls so far have in common.
structure Consistent (apiKey : String) (events : List RiotRestEvent)
    (handler : RiotRestHandler) : Prop where
  region : handler.region = lastRegion events
  apiKey : handler.apiKey = apiKey
  host : ∀ client ∈ handler.client, ∃ region ≠ .none, client.host = getHostByRegion region

@[simp] theorem resetClient_client (handler : RiotRestHandler) :
    handler.resetClient.client = none := rfl

theorem reconnectAndSend_noRegion (hc : handler.client = none) (hr : handler.region = .none) :
    handler.reconnectAndSend type message outcome =
      (.error (.rito noRegionSelected), handler, []) := by
  simp [reconnectAndSend, attemptReconnect, hc, hr]

-- A new client is made for the region set at that moment, and only it is sent on.
theorem reconnectAndSend_transmission (hc : handler.client = none)
    (ht : transmission ∈ (handler.reconnectAndSend type message outcome).2.2) :
    transmission.host = getHostByRegion handler.region ∧
      transmission.headers = [("X-Riot-Token", handler.apiKey)] := by
  by_cases hr : handler.region = .none
  · rw [reconnectAndSend_noRegion hc hr] at ht
    simp at ht
  · cases ho : outcome.construct with
    | error exception => simp [reconnectAndSend, attemptReconnect, hc, hr, ho] at ht
    | ok _ =>
        simp only [reconnectAndSend, attemptReconnect, hc, hr, ho, ite_false] at ht
        obtain ⟨-, hhost, -, -, -, -, hheaders⟩ := HttpsRestClient.request_transmission ht
        exact ⟨hhost, hheaders⟩

-- Only the client changes, to one made for the region set.
theorem reconnectAndSend_handler (type : RequestType) (message : String)
    (outcome : RequestOutcome) (hc : handler.client = none) :
    let next := (handler.reconnectAndSend type message outcome).2.1
    next.region = handler.region ∧ next.apiKey = handler.apiKey ∧
      ∀ client ∈ next.client, handler.region ≠ .none ∧
        client.host = getHostByRegion handler.region := by
  by_cases hr : handler.region = .none
  · rw [reconnectAndSend_noRegion hc hr]
    simp [hc]
  · cases ho : outcome.construct with
    | error exception => simp [reconnectAndSend, attemptReconnect, hc, hr, ho]
    | ok _ =>
        simp only [reconnectAndSend, attemptReconnect, hc, hr, ho, ite_false, Option.mem_def,
          Option.some.injEq, true_and]
        rintro client rfl
        exact ⟨hr, rfl⟩

theorem reconnectAndSend_routed (type : RequestType) (message : String)
    (outcome : RequestOutcome) (hc : handler.client = none) :
    (RiotRestEvent.served (handler.reconnectAndSend type message outcome).1
      (handler.reconnectAndSend type message outcome).2.2).Routed handler.apiKey
        handler.region := by
  refine ⟨fun transmission ht => reconnectAndSend_transmission hc ht, fun hr => ?_⟩
  rw [reconnectAndSend_noRegion hc hr]
  exact ⟨rfl, _, rfl⟩

-- request() on a cached client transmits on it first, and what it transmits
-- after that it transmits like a handler without a client.
theorem request_transmissions (type : RequestType) (message : String)
    (outcome : RequestOutcome) (hc : handler.client = some client) :
    let first := (handler.sendRequest client type message outcome.cached).2
    let retry := handler.resetClient.reconnectAndSend type message outcome
    ((handler.request type message outcome).2.2 = first ∧
        (handler.request type message outcome).2.1 = handler) ∨
      ((handler.request type message outcome).1 = retry.1 ∧
        (handler.request type message outcome).2 = (retry.2.1, first ++ retry.2.2)) := by
  simp only [request, hc]
  split
  · next response transmissions hs => exact Or.inl ⟨by rw [hs], rfl⟩
  · next thrown transmissions hs => exact Or.inr ⟨rfl, by rw [hs]⟩

theorem request_handler (type : RequestType) (message : String) (outcome : RequestOutcome)
    (hcl : ∀ client ∈ handler.client, ∃ region ≠ Region.none,
      client.host = getHostByRegion region) :
    let next := (handler.request type message outcome).2.1
    next.region = handler.region ∧ next.apiKey = handler.apiKey ∧
      ∀ client ∈ next.client, ∃ region ≠ Region.none, client.host = getHostByRegion region := by
  cases hc : handler.client with
  | none =>
      simp only [request, hc]
      obtain ⟨hregion, hkey, hnew⟩ := reconnectAndSend_handler type message outcome hc
      exact ⟨hregion, hkey, fun client hm => ⟨_, (hnew client hm).1, (hnew client hm).2⟩⟩
  | some client =>
      obtain ⟨_, hn⟩ | ⟨_, hn⟩ := request_transmissions type message outcome hc
      · rw [hn]
        exact ⟨rfl, rfl, hcl⟩
      · rw [hn]
        obtain ⟨hregion, hkey, hnew⟩ := reconnectAndSend_handler type message outcome
          handler.resetClient_client
        exact ⟨hregion, hkey, fun client hm => ⟨_, (hnew client hm).1, (hnew client hm).2⟩⟩

theorem sendRequest_transmission (client : HttpsRestClient) (message : String)
    (exchange : Exchange) (ht : type.isEnumerator = true) :
    ∃ first, (handler.sendRequest client type message exchange).2 = [first] ∧
      first.host = client.host ∧ first.headers = [("X-Riot-Token", handler.apiKey)] := by
  have hlen : (handler.sendRequest client type message exchange).2.length = 1 := by
    rw [sendRequest, HttpsRestClient.request_length, ht, if_pos rfl]
  obtain ⟨first, hfirst⟩ := List.length_eq_one_iff.mp hlen
  have hm : first ∈ (handler.sendRequest client type message exchange).2 := by simp [hfirst]
  obtain ⟨-, hhost, -, -, -, -, hheaders⟩ := HttpsRestClient.request_transmission hm
  exact ⟨first, hfirst, hhost, hheaders⟩

-- With a client cached, the first transmission is made on it, and what follows
-- goes to the region set.
theorem cached_transmissions (type : RequestType) (message : String) (outcome : RequestOutcome)
    (hc : handler.client = some client) (ht : type.isEnumerator = true) :
    ∃ first later, (handler.request type message outcome).2.2 = first :: later ∧
      first.host = client.host ∧ first.headers = [("X-Riot-Token", handler.apiKey)] ∧
      ∀ transmission ∈ later, transmission.host = getHostByRegion handler.region ∧
        transmission.headers = [("X-Riot-Token", handler.apiKey)] := by
  obtain ⟨first, hfirst, hhost, hheaders⟩ :=
    sendRequest_transmission client message outcome.cached ht
  obtain ⟨hs, -⟩ | ⟨-, hs⟩ := request_transmissions type message outcome hc
  · exact ⟨first, [], by rw [hs, hfirst], hhost, hheaders, by simp⟩
  · have hretry := reconnectAndSend_routed type message outcome handler.resetClient_client
    refine ⟨first, _, ?_, hhost, hheaders, hretry.1⟩
    rw [hs, hfirst, List.singleton_append]

-- One request is routed right exactly when the client it finds fits.
theorem request_routed_iff (hcl : ∀ client ∈ handler.client, ∃ region ≠ Region.none,
      client.host = getHostByRegion region) :
    (RiotRestEvent.served (handler.request type message outcome).1
      (handler.request type message outcome).2.2).Routed handler.apiKey handler.region ↔
      handler.ClientFits (.request type message outcome) := by
  cases hc : handler.client with
  | none =>
      have hfits : handler.ClientFits (.request type message outcome) := by simp [ClientFits, hc]
      simp only [request, hc]
      exact iff_of_true (reconnectAndSend_routed type message outcome hc) hfits
  | some client =>
      cases ht : type.isEnumerator with
      | false =>
          have hretry := reconnectAndSend_routed type message outcome handler.resetClient_client
          have hfits : handler.ClientFits (.request type message outcome) := by
            simp [ClientFits, ht]
          simp only [request, hc, sendRequest, HttpsRestClient.request_unspecified ht,
            List.nil_append]
          exact iff_of_true hretry hfits
      | true =>
          obtain ⟨region, hne, hhost⟩ := hcl client hc
          obtain ⟨first, later, hall, hto, hheaders, hlater⟩ :=
            cached_transmissions type message outcome hc ht
          simp only [ClientFits, ht, hc, Option.mem_def, Option.some.injEq, forall_eq',
            true_imp_iff]
          constructor
          · rintro ⟨hrouted, -⟩
            have hin : first ∈ (handler.request type message outcome).2.2 := by simp [hall]
            rw [← hto, (hrouted first hin).1]
          · intro hfit
            have hregion : handler.region ≠ .none := by
              rw [← getHostByRegion_injective (hhost.symm.trans hfit)]
              exact hne
            refine ⟨fun transmission hm => ?_, fun hr => absurd hr hregion⟩
            rw [hall] at hm
            rcases List.mem_cons.mp hm with rfl | hm
            · exact ⟨hto.trans hfit, hheaders⟩
            · exact hlater transmission hm

theorem Consistent.serve (h : Consistent apiKey events handler) :
    Consistent apiKey (events ++ [(handler.serve call).2]) (handler.serve call).1 := by
  cases call with
  | setRegion region =>
      exact ⟨by simp [lastRegion, RiotRestHandler.serve, setRegion], h.apiKey, h.host⟩
  | request type message outcome =>
      obtain ⟨hregion, hkey, hhost⟩ := request_handler type message outcome h.host
      refine ⟨?_, hkey.trans h.apiKey, hhost⟩
      have hl := h.region
      simp only [lastRegion, List.foldl_append] at hl ⊢
      exact hregion.trans hl

theorem serve_routed_iff (h : Consistent apiKey events handler) :
    (handler.serve call).2.Routed apiKey (lastRegion events) ↔ handler.ClientFits call := by
  cases call with
  | setRegion region => exact Iff.rfl
  | request type message outcome =>
      rw [← h.region, ← h.apiKey]
      exact request_routed_iff h.host

theorem consistent_of_exec (h : machine.exec (new apiKey) calls = some (handler, events)) :
    Consistent apiKey events handler := by
  refine machine.exec_induction (I := fun _ events handler => Consistent apiKey events handler)
    ⟨rfl, rfl, by simp [new]⟩ ?_ h
  intro _ events handler call next later hi hs
  simp only [machine, Option.some.injEq, Prod.mk.injEq] at hs
  obtain ⟨rfl, rfl⟩ := hs
  exact hi.serve

-- In every sequence of calls, every request goes to the region set last if and
-- only if no request with a method finds a client made for another region.
theorem requests_routed_iff (h : machine.exec (new apiKey) calls = some (handler, events)) :
    Guarded (fun before event => event.Routed apiKey (lastRegion before)) events ↔
      machine.Along ClientFits (new apiKey) calls := by
  have hi := machine.exec_induction (I := fun calls events handler =>
    machine.exec (new apiKey) calls = some (handler, events) ∧
      (Guarded (fun before event => event.Routed apiKey (lastRegion before)) events ↔
        machine.Along ClientFits (new apiKey) calls)) ⟨rfl, iff_of_true (guarded_nil _) trivial⟩ ?_ h
  · exact hi.2
  · rintro calls events handler call next later ⟨he, hi⟩ hs
    refine ⟨Machine.exec_concat.mpr ⟨handler, events, later, he, hs, rfl⟩, ?_⟩
    simp only [machine, Option.some.injEq, Prod.mk.injEq] at hs
    obtain ⟨rfl, rfl⟩ := hs
    rw [guarded_concat, Machine.along_concat, hi, serve_routed_iff (consistent_of_exec he)]
    simp [he]

def delivered : Exchange where
  sending := .ok ()
  receiving := .ok ⟨200, "OK", []⟩

def lost : Exchange where
  sending := .error (.other "Connection reset by peer")
  receiving := .error (.other "I/O error")

-- The region is changed after a request that was answered.
def regionChanged : List RiotRestCall :=
  [.setRegion .euw, .request .httpGet "/lol/status/v4/platform-data" ⟨lost, .ok (), delivered⟩,
    .setRegion .na, .request .httpGet "/lol/status/v4/platform-data" ⟨delivered, .ok (), lost⟩]

theorem regionChanged_misrouted :
    ∃ handler events, machine.exec (new "RGAPI-key") regionChanged = some (handler, events) ∧
      ¬Guarded (fun before event => event.Routed "RGAPI-key" (lastRegion before)) events := by
  refine ⟨_, _, rfl, fun h => ?_⟩
  have hrouted := (h [_, _, _] _ [] rfl).1 _ (List.mem_singleton.mpr rfl)
  exact absurd hrouted.1 (by decide)

-- A request without a region, one answered, and one whose connection is lost.
def sameRegion : List RiotRestCall :=
  [.request .httpGet "/riot" ⟨lost, .ok (), lost⟩, .setRegion .kr,
    .request .httpPost "/riot" ⟨lost, .ok (), delivered⟩,
    .request .httpGet "/riot" ⟨lost, .ok (), delivered⟩]

theorem requests_routed_iff_sameRegion :
    ∃ handler events, machine.exec (new "RGAPI-key") sameRegion = some (handler, events) ∧
      Guarded (fun before event => event.Routed "RGAPI-key" (lastRegion before)) events := by
  have h : machine.exec (new "RGAPI-key") sameRegion = some (_, _) := rfl
  exact ⟨_, _, h, (requests_routed_iff h).mpr (by decide)⟩

end RiotRestHandler

end Rito
