import Rito.HttpsRestClient.Handlers

namespace Rito

namespace HttpsRestClient

variable {client other : HttpsRestClient} {type : RequestType} {pathAndQuery : String}
  {headers more : List (String × String)} {exchange : Exchange}

theorem request_length_le {result : Except Thrown HttpResponse} {transmissions : List Transmission}
    (h : client.request type pathAndQuery headers exchange = (result, transmissions)) :
    transmissions.length ≤ 1 := by
  have hlength : transmissions.length = if type.isEnumerator then 1 else 0 := by
    rw [← request_length, h]
  split at hlength <;> omega

-- What comes back depends on the exchange alone.
theorem request_fst : (client.request type pathAndQuery headers exchange).1 =
    (other.request type pathAndQuery more exchange).1 := by
  unfold request
  cases toPocoRequestType type with
  | error exception => rfl
  | ok method =>
      unfold sendRequest
      cases exchange.sending <;> rfl

end HttpsRestClient

-- What request() does, one step after the other: a request made on a client,
-- the search for what a new client is built from, the construction of it, and
-- its final throw.
inductive RestStep (π : Type*) where
  | requested (client : HttpsRestClient) (result : Except Thrown HttpResponse)
      (transmissions : List Transmission)
  | searched (found : Except Thrown π)
  | constructed (client : Except Thrown HttpsRestClient)
  | unexpected

namespace RestStep

variable {π : Type*}

def transmissions : RestStep π → List Transmission
  | requested _ _ transmissions => transmissions
  | _ => []

-- What a call comes to that ends with the step: a search or a construction that
-- succeeds is not the end of one.
def outcome? : RestStep π → Option (Except Thrown HttpResponse)
  | requested _ result _ => some result
  | searched (.error thrown) => some (.error thrown)
  | constructed (.error thrown) => some (.error thrown)
  | _ => none

-- No new client comes of the step.
def Fails (step : RestStep π) : Prop :=
  (∃ thrown, step = searched (.error thrown)) ∨ ∃ thrown, step = constructed (.error thrown)

end RestStep

-- How a handler makes a new client: what it searches for, whether a client can
-- be constructed, and the client it builds from what was found.
structure Renewing {σ β ω : Type*} (H : RestHandler σ β ω) (π : Type*) where
  search : σ → ω → Except Thrown π
  construct : ω → Except TransportException Unit
  build : σ → π → HttpsRestClient
  drop_client : ∀ s, H.client (H.drop s) = none
  search_drop : ∀ s outcome, search (H.drop s) outcome = search s outcome
  build_drop : ∀ s found, build (H.drop s) found = build s found
  connect_of_search : ∀ {s outcome thrown}, search s outcome = .error thrown →
    H.connect s outcome = .error thrown
  connect_of_construct : ∀ {s outcome found exception}, search s outcome = .ok found →
    construct outcome = .error exception → H.connect s outcome = .error (.transport exception)
  connect_of_ok : ∀ {s outcome found}, search s outcome = .ok found → construct outcome = .ok () →
    ∃ next, H.connect s outcome = .ok (build s found, next) ∧
      H.client next = some (build s found)

namespace Renewing

variable {σ β ω π : Type*} {H : RestHandler σ β ω} {R : Renewing H π} {s : σ}
  {call : RestRequest ω} {client : HttpsRestClient}

-- The steps of attempt_reconnect().
def connectSteps (R : Renewing H π) (s : σ) (outcome : ω) : List (RestStep π) :=
  match R.search s outcome with
  | .error thrown => [.searched (.error thrown)]
  | .ok found =>
      match R.construct outcome with
      | .error exception => [.searched (.ok found), .constructed (.error (.transport exception))]
      | .ok () => [.searched (.ok found), .constructed (.ok (R.build s found))]

-- The steps of request() from its second if on.
def renewSteps (R : Renewing H π) (s : σ) (call : RestRequest ω) : List (RestStep π) :=
  match H.client s with
  | some _ => [.unexpected]
  | none =>
      match H.connect s call.outcome with
      | .error _ => R.connectSteps s call.outcome
      | .ok (client, s') =>
          let (result, transmissions) :=
            client.request call.type call.message (H.headers s') (H.fresh call.outcome)
          R.connectSteps s call.outcome ++ [.requested client result transmissions]

def steps (R : Renewing H π) (s : σ) (call : RestRequest ω) : List (RestStep π) :=
  match H.client s with
  | none => R.renewSteps s call
  | some client =>
      match client.request call.type call.message (H.headers s) (H.cached call.outcome) with
      | (.ok response, transmissions) => [.requested client (.ok response) transmissions]
      | (.error thrown, transmissions) =>
          .requested client (.error thrown) transmissions :: R.renewSteps (H.drop s) call

-- A call ends with its last step, goes through no final throw, and leaves no
-- client exactly if none could be made in it.
structure Follows (steps : List (RestStep π)) (result : Except Thrown HttpResponse)
    (after : Option HttpsRestClient) (transmissions : List Transmission) : Prop where
  transmitted : transmissions = steps.flatMap RestStep.transmissions
  last : ∃ step ∈ steps.getLast?, step.outcome? = some result
  expected : .unexpected ∉ steps
  client_none : after = none ↔ ∃ step ∈ steps, step.Fails

-- And it transmits at most twice: the second time on a client built from what
-- it searched for once the first had failed. What it comes to then is what it
-- comes to without a client.
structure RetryLaw (R : Renewing H π)
    (request : σ → RestRequest ω → Except Thrown HttpResponse × σ × List Transmission) (s : σ)
    (call : RestRequest ω) : Prop
    extends Follows (R.steps s call) (request s call).1 (H.client (request s call).2.1)
      (request s call).2.2 where
  bounded : (request s call).2.2.length ≤ 2
  second : ∀ first second, (request s call).2.2 = [first, second] →
    ∃ client thrown found, H.client s = some client ∧ R.search s call.outcome = .ok found ∧
      R.steps s call = [.requested client (.error thrown) [first], .searched (.ok found),
        .constructed (.ok (R.build s found)),
        .requested (R.build s found) (request s call).1 [second]]
  without : (∀ client ∈ H.client s, (client.request call.type call.message (H.headers s)
      (H.cached call.outcome)).1.isOk = false) →
    ∀ other, H.client other = none → R.search other call.outcome = R.search s call.outcome →
      (request s call).1 = (request other call).1

theorem Follows.cons {steps : List (RestStep π)} {result : Except Thrown HttpResponse}
    {after : Option HttpsRestClient} {transmissions first : List Transmission} {thrown : Thrown}
    (h : Follows steps result after transmissions) :
    Follows (.requested client (.error thrown) first :: steps) result after
      (first ++ transmissions) where
  transmitted := by
    rw [h.transmitted]
    rfl
  last := by
    obtain ⟨step, hm, ho⟩ := h.last
    refine ⟨step, ?_, ho⟩
    rw [Option.mem_def] at hm ⊢
    rw [List.getLast?_cons, hm]
    rfl
  expected := by simp [h.expected]
  client_none := by simp [h.client_none, RestStep.Fails]

theorem connect_cases (R : Renewing H π) (s : σ) (outcome : ω) :
    (∃ thrown, R.search s outcome = .error thrown ∧ H.connect s outcome = .error thrown ∧
        R.connectSteps s outcome = [.searched (.error thrown)]) ∨
      (∃ found exception, R.search s outcome = .ok found ∧ R.construct outcome = .error exception ∧
        H.connect s outcome = .error (.transport exception) ∧
        R.connectSteps s outcome =
          [.searched (.ok found), .constructed (.error (.transport exception))]) ∨
      ∃ found next, R.search s outcome = .ok found ∧ R.construct outcome = .ok () ∧
        H.connect s outcome = .ok (R.build s found, next) ∧
        H.client next = some (R.build s found) ∧
        R.connectSteps s outcome = [.searched (.ok found), .constructed (.ok (R.build s found))] := by
  cases hs : R.search s outcome with
  | error thrown =>
      exact Or.inl ⟨thrown, rfl, R.connect_of_search hs, by simp only [connectSteps, hs]⟩
  | ok found =>
      cases hc : R.construct outcome with
      | error exception =>
          exact Or.inr (Or.inl ⟨found, exception, rfl, rfl, R.connect_of_construct hs hc,
            by simp only [connectSteps, hs, hc]⟩)
      | ok _ =>
          obtain ⟨next, hn, hclient⟩ := R.connect_of_ok hs hc
          exact Or.inr (Or.inr ⟨found, next, rfl, rfl, hn, hclient,
            by simp only [connectSteps, hs, hc]⟩)

theorem renewSteps_of_error {thrown : Thrown} (hc : H.client s = none)
    (hn : H.connect s call.outcome = .error thrown) :
    R.renewSteps s call = R.connectSteps s call.outcome := by
  simp only [renewSteps, hc, hn]

theorem renewSteps_of_ok {next : σ} (hc : H.client s = none)
    (hn : H.connect s call.outcome = .ok (client, next)) :
    R.renewSteps s call = R.connectSteps s call.outcome ++
      [.requested client
        (client.request call.type call.message (H.headers next) (H.fresh call.outcome)).1
        (client.request call.type call.message (H.headers next) (H.fresh call.outcome)).2] := by
  simp only [renewSteps, hc, hn]

-- The search and the construction succeed, or the call ends with the first of
-- them that fails.
theorem renew_follows (R : Renewing H π) (call : RestRequest ω) (hc : H.client s = none) :
    Follows (R.renewSteps s call) (H.retrying.renew s call).1
      (H.client (H.retrying.renew s call).2.1)
      (Retrying.transmitted (H.retrying.renew s call).2.2) := by
  rcases R.connect_cases s call.outcome with ⟨thrown, -, hn, hsteps⟩ |
    ⟨found, exception, -, -, hn, hsteps⟩ | ⟨found, next, -, -, hn, hclient, hsteps⟩
  · rw [renewSteps_of_error hc hn, hsteps, RestHandler.renew_eq_error hn]
    exact {
      transmitted := rfl
      last := ⟨_, rfl, rfl⟩
      expected := by simp
      client_none := by simp [hc, RestStep.Fails] }
  · rw [renewSteps_of_error hc hn, hsteps, RestHandler.renew_eq_error hn]
    exact {
      transmitted := rfl
      last := ⟨_, rfl, rfl⟩
      expected := by simp
      client_none := by simp [hc, RestStep.Fails] }
  · rw [renewSteps_of_ok hc hn, hsteps, RestHandler.renew_eq_ok hn]
    exact {
      transmitted := rfl
      last := ⟨_, rfl, rfl⟩
      expected := by simp
      client_none := by simp [hclient, RestStep.Fails] }

-- What goes out without a client goes out on the one built for it.
theorem renew_transmitted (R : Renewing H π) (call : RestRequest ω) (hc : H.client s = none)
    (ht : Retrying.transmitted (H.retrying.renew s call).2.2 ≠ []) :
    ∃ found, R.search s call.outcome = .ok found ∧
      R.renewSteps s call = [.searched (.ok found), .constructed (.ok (R.build s found)),
        .requested (R.build s found) (H.retrying.renew s call).1
          (Retrying.transmitted (H.retrying.renew s call).2.2)] := by
  rcases R.connect_cases s call.outcome with ⟨thrown, -, hn, -⟩ | ⟨found, exception, -, -, hn, -⟩ |
    ⟨found, next, hsearch, -, hn, -, hsteps⟩
  · rw [RestHandler.renew_eq_error hn] at ht
    exact absurd rfl ht
  · rw [RestHandler.renew_eq_error hn] at ht
    exact absurd rfl ht
  · refine ⟨found, hsearch, ?_⟩
    rw [renewSteps_of_ok hc hn, hsteps, RestHandler.renew_eq_ok hn]
    simp [Retrying.transmitted]

theorem renew_length_le (H : RestHandler σ β ω) (s : σ) (call : RestRequest ω) :
    (Retrying.transmitted (H.retrying.renew s call).2.2).length ≤ 1 := by
  cases hn : H.connect s call.outcome with
  | error thrown =>
      rw [RestHandler.renew_eq_error hn]
      exact Nat.zero_le 1
  | ok pair =>
      rw [RestHandler.renew_eq_ok hn]
      simp only [Retrying.transmitted, List.flatMap_singleton]
      exact HttpsRestClient.request_length_le rfl

-- Two handlers that find the same get the same from a new client.
theorem renew_fst {other : σ} (R : Renewing H π)
    (h : R.search other call.outcome = R.search s call.outcome) :
    (H.retrying.renew s call).1 = (H.retrying.renew other call).1 := by
  rcases R.connect_cases s call.outcome with ⟨thrown, hs, hn, -⟩ |
    ⟨found, exception, hs, hc, hn, -⟩ | ⟨found, next, hs, hc, hn, -, -⟩
  · rw [RestHandler.renew_eq_error hn, RestHandler.renew_eq_error (R.connect_of_search (h.trans hs))]
  · rw [RestHandler.renew_eq_error hn,
      RestHandler.renew_eq_error (R.connect_of_construct (h.trans hs) hc)]
  · obtain ⟨last, hlast, -⟩ := R.connect_of_ok (h.trans hs) hc
    rw [RestHandler.renew_eq_ok hn, RestHandler.renew_eq_ok hlast]
    exact HttpsRestClient.request_fst

theorem eq_singletons {α : Type*} {first second : List α} {a b : α} (hf : first.length ≤ 1)
    (hs : second.length ≤ 1) (h : first ++ second = [a, b]) : first = [a] ∧ second = [b] := by
  have hlen : first.length + second.length = 2 := by
    rw [← List.length_append, h]
    rfl
  have hone : first.length = [a].length := by
    show first.length = 1
    omega
  exact List.append_inj h hone

section Calls

variable {request : σ → RestRequest ω → Except Thrown HttpResponse × σ × List Transmission}
  {transmissions : List Transmission}

-- Without a client the call is the request on a new one.
def Renews (H : RestHandler σ β ω)
    (request : σ → RestRequest ω → Except Thrown HttpResponse × σ × List Transmission)
    (call : RestRequest ω) : Prop :=
  ∀ s, H.client s = none → request s call = ((H.retrying.renew s call).1,
    (H.retrying.renew s call).2.1, Retrying.transmitted (H.retrying.renew s call).2.2)

theorem retryLaw_of_none (hc : H.client s = none) (hr : Renews H request call) :
    RetryLaw R request s call where
  toFollows := by
    have hsteps : R.steps s call = R.renewSteps s call := by simp only [steps, hc]
    rw [hsteps, hr s hc]
    exact R.renew_follows call hc
  bounded := by
    rw [hr s hc]
    exact Nat.le_succ_of_le (renew_length_le H s call)
  second first second hsent := by
    have hlength := renew_length_le H s call
    simp only [hr s hc] at hsent
    simp [hsent] at hlength
  without _ other hother hsearch := by
    rw [hr s hc, hr other hother]
    exact R.renew_fst hsearch

theorem retryLaw_of_answered {response : HttpResponse} (hc : H.client s = some client)
    (hk : client.request call.type call.message (H.headers s) (H.cached call.outcome) =
      (.ok response, transmissions))
    (hr : request s call = (.ok response, s, transmissions)) : RetryLaw R request s call where
  toFollows := by
    have hsteps : R.steps s call = [.requested client (.ok response) transmissions] := by
      simp only [steps, hc, hk]
    rw [hsteps, hr]
    exact {
      transmitted := by simp [RestStep.transmissions]
      last := ⟨_, rfl, rfl⟩
      expected := by simp
      client_none := by simp [hc, RestStep.Fails] }
  bounded := by
    rw [hr]
    exact Nat.le_succ_of_le (HttpsRestClient.request_length_le hk)
  second first second hsent := by
    have hlength := HttpsRestClient.request_length_le hk
    simp only [hr] at hsent
    simp [hsent] at hlength
  without hfail := by
    have hf := hfail client hc
    rw [hk] at hf
    cases hf

theorem retryLaw_of_failed {thrown : Thrown} (hc : H.client s = some client)
    (hk : client.request call.type call.message (H.headers s) (H.cached call.outcome) =
      (.error thrown, transmissions)) (hn : Renews H request call)
    (hr : request s call = ((H.retrying.renew (H.drop s) call).1,
      (H.retrying.renew (H.drop s) call).2.1,
      transmissions ++ Retrying.transmitted (H.retrying.renew (H.drop s) call).2.2)) :
    RetryLaw R request s call where
  toFollows := by
    have hsteps : R.steps s call =
        .requested client (.error thrown) transmissions :: R.renewSteps (H.drop s) call := by
      simp only [steps, hc, hk]
    rw [hsteps, hr]
    exact (R.renew_follows call (R.drop_client s)).cons
  bounded := by
    have hfirst := HttpsRestClient.request_length_le hk
    have hlater := renew_length_le H (H.drop s) call
    rw [hr, List.length_append]
    omega
  second first second hsent := by
    simp only [hr] at hsent
    obtain ⟨hfirst, hlater⟩ := eq_singletons (HttpsRestClient.request_length_le hk)
      (renew_length_le H (H.drop s) call) hsent
    obtain ⟨found, hsearch, hlast⟩ := R.renew_transmitted call (R.drop_client s) (by simp [hlater])
    refine ⟨client, thrown, found, hc, (R.search_drop s call.outcome).symm.trans hsearch, ?_⟩
    rw [hlater, R.build_drop] at hlast
    simp only [steps, hc, hk, hlast, hfirst, hr]
  without _ other hother hsearch := by
    rw [hr, hn other hother]
    apply R.renew_fst
    rw [hsearch, R.search_drop]

theorem retryLaw (R : Renewing H π) (hr : ∀ s call, request s call =
    ((H.retrying.call s call).1, (H.retrying.call s call).2.1,
      Retrying.transmitted (H.retrying.call s call).2.2)) (s : σ) (call : RestRequest ω) :
    RetryLaw R request s call := by
  have hn : Renews H request call := by
    intro other hother
    rw [hr, Retrying.call_of_none hother]
  cases hc : H.client s with
  | none => exact retryLaw_of_none hc hn
  | some client =>
      rcases hk : client.request call.type call.message (H.headers s) (H.cached call.outcome) with
        ⟨thrown | response, transmissions⟩
      · refine retryLaw_of_failed hc hk hn ?_
        rw [hr, Retrying.call_of_failed hc hk, Retrying.transmitted, List.flatMap_cons]
        rfl
      · refine retryLaw_of_answered hc hk ?_
        rw [hr, Retrying.call_of_answered hc hk, Retrying.transmitted, List.flatMap_singleton]

end Calls

end Renewing

namespace LcuRestHandler

def renewing : Renewing restHandler LcuParameters where
  search _ outcome := outcome.parameters
  construct outcome := outcome.construct
  build handler parameters :=
    (HttpsRestClient.new handler.created "127.0.0.1" parameters.appPort).setCredentials "riot"
      parameters.remotingAuthToken
  drop_client _ := rfl
  search_drop _ _ := rfl
  build_drop _ _ := rfl
  connect_of_search := by
    intro handler outcome thrown hs
    show handler.attemptReconnect outcome = _
    simp only [attemptReconnect, hs]
  connect_of_construct := by
    intro handler outcome found exception hs hc
    show handler.attemptReconnect outcome = _
    simp only [attemptReconnect, hs, hc]
  connect_of_ok := by
    intro handler outcome found hs hc
    refine ⟨{ client := some _, created := handler.created + 1 }, ?_, rfl⟩
    show handler.attemptReconnect outcome = _
    simp only [attemptReconnect, hs, hc]

end LcuRestHandler

namespace RiotRestHandler

def renewing : Renewing restHandler String where
  search handler _ :=
    if handler.region = .none then .error (.rito noRegionSelected)
    else .ok (getHostByRegion handler.region)
  construct outcome := outcome.construct
  build handler host := HttpsRestClient.new handler.created host httpsPort
  drop_client _ := rfl
  search_drop _ _ := rfl
  build_drop _ _ := rfl
  connect_of_search := by
    intro handler outcome thrown hs
    show handler.attemptReconnect outcome.construct = _
    by_cases hr : handler.region = .none
    · simpa only [attemptReconnect, hr, if_true, Except.error.injEq] using hs
    · simp [hr] at hs
  connect_of_construct := by
    intro handler outcome found exception hs hc
    show handler.attemptReconnect outcome.construct = _
    by_cases hr : handler.region = .none
    · simp [hr] at hs
    · simp only [attemptReconnect, hr, if_false, hc]
  connect_of_ok := by
    intro handler outcome found hs hc
    by_cases hr : handler.region = .none
    · simp [hr] at hs
    · obtain rfl : getHostByRegion handler.region = found := by simpa [hr] using hs
      refine ⟨{ handler with client := some _, created := handler.created + 1 }, ?_, rfl⟩
      show handler.attemptReconnect outcome.construct = _
      simp only [attemptReconnect, hr, if_false, hc]

end RiotRestHandler

-- Both handlers keep to it, whatever the calls before have left.
theorem request_retryLaw :
    (∀ (handler : LcuRestHandler) (call : RestRequest LcuRestOutcome),
      LcuRestHandler.renewing.RetryLaw
        (fun handler call => handler.request call.type call.message call.outcome) handler call) ∧
      ∀ (handler : RiotRestHandler) (call : RestRequest RequestOutcome),
        RiotRestHandler.renewing.RetryLaw
          (fun handler call => handler.request call.type call.message call.outcome) handler call := by
  constructor
  · intro handler call
    apply Renewing.retryLaw
    intro handler call
    exact handler.request_eq call.type call.message call.outcome
  · intro handler call
    apply Renewing.retryLaw
    intro handler call
    exact handler.request_eq call.type call.message call.outcome

def RestStep.isSearchOrRequest {π : Type*} : RestStep π → Bool
  | .requested _ _ _ | .searched _ => true
  | .constructed _ | .unexpected => false

-- LCU runs, and no client can be constructed for it.
def noContext : LcuRestOutcome where
  cached := ⟨.error (.other "Host not found"), .error (.other "Host not found")⟩
  parameters := .ok ⟨"token", 51234⟩
  construct := .error (.other "SSL context")
  fresh := ⟨.error (.other "Host not found"), .error (.other "Host not found")⟩

-- The search returned, and still the call throws.
theorem noContext_result :
    (LcuRestHandler.new.request .httpGet "/" noContext).1 =
        .error (.transport (.other "SSL context")) ∧
      ((LcuRestHandler.renewing.steps .new ⟨.httpGet, "/", noContext⟩).filter
        RestStep.isSearchOrRequest).getLast? = some (.searched (.ok ⟨"token", 51234⟩)) ∧
      ¬∃ step ∈ LcuRestHandler.renewing.steps .new ⟨.httpGet, "/", noContext⟩,
        step.isSearchOrRequest = true ∧
          step.outcome? = some (LcuRestHandler.new.request .httpGet "/" noContext).1 := by
  have hsteps : LcuRestHandler.renewing.steps .new ⟨.httpGet, "/", noContext⟩ =
      [.searched (.ok ⟨"token", 51234⟩), .constructed (.error (.transport (.other "SSL context")))] :=
    rfl
  refine ⟨rfl, rfl, ?_⟩
  rw [hsteps]
  rintro ⟨step, hm, hs, ho⟩
  rcases List.mem_pair.mp hm with rfl | rfl
  · cases ho
  · cases hs

end Rito
