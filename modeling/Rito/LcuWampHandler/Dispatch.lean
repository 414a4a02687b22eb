import Rito.LcuWampHandler.Incoming

namespace Rito

-- Which elements an array has: what get() gives for any other index is an empty
-- Var, and no conversion of it succeeds.
structure PocoJson.Elements {Var ArrayPtr : Type} (poco : PocoJson Var ArrayPtr)
    (hasElement : ArrayPtr → Nat → Prop) : Prop where
  toInt_missing : ∀ array index, ¬hasElement array index →
    ∃ what, poco.toInt (poco.get array index) = .error what
  toString_missing : ∀ array index, ¬hasElement array index →
    ∃ what, poco.toString (poco.get array index) = .error what

section Carries

variable {Var ArrayPtr : Type} (poco : PocoJson Var ArrayPtr) (hasElement : ArrayPtr → Nat → Prop)

def PocoJson.Parses (message : Bytes) (array : ArrayPtr) : Prop :=
  ∃ var, poco.parse message = .ok var ∧ poco.extractArray var = .ok array

-- The array has the element, and it converts to the code or to the text.
def PocoJson.Code (array : ArrayPtr) (code : Int) : Prop :=
  hasElement array 0 ∧ poco.toInt (poco.get array 0) = .ok code

def PocoJson.Field (array : ArrayPtr) (index : Nat) (text : Bytes) : Prop :=
  hasElement array index ∧ poco.toString (poco.get array index) = .ok text

-- The text is a message for this callback with these arguments.
inductive Carries (message : Bytes) : WampInvocation → Prop
  | callResult {array : ArrayPtr} {identifier jsonData : Bytes}
      (hp : poco.Parses message array) (hc : poco.Code hasElement array 3)
      (h₁ : poco.Field hasElement array 1 identifier)
      (h₂ : poco.Field hasElement array 2 jsonData) :
      Carries message (.callResult identifier jsonData)
  | callError {array : ArrayPtr} {identifier error errorDescription : Bytes}
      (hp : poco.Parses message array) (hc : poco.Code hasElement array 4)
      (h₁ : poco.Field hasElement array 1 identifier)
      (h₂ : poco.Field hasElement array 2 error)
      (h₃ : poco.Field hasElement array 3 errorDescription) :
      Carries message (.callError identifier error errorDescription)
  | event {array : ArrayPtr} {name jsonData : Bytes}
      (hp : poco.Parses message array) (hc : poco.Code hasElement array 8)
      (h₁ : poco.Field hasElement array 1 name)
      (h₂ : poco.Field hasElement array 2 jsonData) :
      Carries message (.event name jsonData)

end Carries

namespace PocoJson.Elements

variable {Var ArrayPtr : Type} {poco : PocoJson Var ArrayPtr}
  {hasElement : ArrayPtr → Nat → Prop} {array : ArrayPtr}

theorem code (he : poco.Elements hasElement) {code : Int}
    (h : poco.toInt (poco.get array 0) = .ok code) : poco.Code hasElement array code := by
  refine ⟨?_, h⟩
  by_contra hm
  obtain ⟨what, hw⟩ := he.toInt_missing array 0 hm
  rw [h] at hw
  cases hw

theorem field (he : poco.Elements hasElement) {index : Nat} {text : Bytes}
    (h : poco.toString (poco.get array index) = .ok text) :
    poco.Field hasElement array index text := by
  refine ⟨?_, h⟩
  by_contra hm
  obtain ⟨what, hw⟩ := he.toString_missing array index hm
  rw [h] at hw
  cases hw

end PocoJson.Elements

-- How the body of a callback ends.
inductive CallbackOutcome where
  | returns
  | throwsPoco (what : String)
  | throws (what : String)
  deriving DecidableEq, Repr

namespace LcuWampHandler

variable {Var ArrayPtr : Type} {poco : PocoJson Var ArrayPtr}
  {hasElement : ArrayPtr → Nat → Prop} {handler : LcuWampHandler} {message : Bytes}
  {array : ArrayPtr} {invocation : WampInvocation} {invocations : List WampInvocation}

def registered (handler : LcuWampHandler) : WampInvocation → Bool
  | .callResult _ _ => handler.onCallResultCallback
  | .callError _ _ _ => handler.onCallErrorCallback
  | .event _ _ => handler.onEventCallback

-- How dispatch_message() itself ends. The callback runs last in its try block,
-- so a Poco exception of the callback is swallowed like those of the parser.
def dispatchOutcome (poco : PocoJson Var ArrayPtr) (handler : LcuWampHandler) (message : Bytes)
    (callback : WampInvocation → CallbackOutcome) : CallbackOutcome :=
  match handler.dispatch poco message with
  | .error _ => .returns
  | .ok invocations =>
      match (invocations.map callback).find? (· ≠ .returns) with
      | some (.throws what) => .throws what
      | _ => .returns

def invoke (handler : LcuWampHandler) (invocation : WampInvocation) : List WampInvocation :=
  if handler.registered invocation then [invocation] else []

theorem dispatch_of_parses (hp : poco.Parses message array) :
    handler.dispatch poco message = handler.dispatchArray poco array := by
  obtain ⟨var, hparse, hextract⟩ := hp
  simp only [dispatch, hparse, hextract, bind, Except.bind]

-- A block that ends without an exception went through each of its steps.
theorem bind_eq_ok {ε α β : Type} {x : Except ε α} {f : α → Except ε β} {b : β} :
    (x >>= f) = .ok b ↔ ∃ a, x = .ok a ∧ f a = .ok b := by
  cases x with
  | error e => simp [bind, Except.bind]
  | ok a => simp [bind, Except.bind]

theorem pair_eq_ok {ε α β : Type} {x : Except ε α} {y : Except ε β} {a : α} {b : β}
    (h : (do let first ← x; let second ← y; return (first, second)) = .ok (a, b)) :
    x = .ok a ∧ y = .ok b := by
  obtain ⟨first, h₁, hrest⟩ := bind_eq_ok.mp h
  obtain ⟨second, h₂, hpair⟩ := bind_eq_ok.mp hrest
  cases hpair
  exact ⟨h₁, h₂⟩

theorem parses_of_dispatch (h : handler.dispatch poco message = .ok invocations) :
    ∃ array, poco.Parses message array ∧ handler.dispatchArray poco array = .ok invocations := by
  obtain ⟨var, hparse, hrest⟩ := bind_eq_ok.mp h
  obtain ⟨array, hextract, harray⟩ := bind_eq_ok.mp hrest
  exact ⟨array, ⟨var, hparse, hextract⟩, harray⟩

theorem parseCallResult_eq_ok {identifier jsonData : Bytes}
    (h : parseCallResult poco array = .ok (identifier, jsonData)) :
    poco.toString (poco.get array 1) = .ok identifier ∧
      poco.toString (poco.get array 2) = .ok jsonData :=
  pair_eq_ok h

theorem parseCallError_eq_ok {identifier error errorDescription : Bytes}
    (h : parseCallError poco array = .ok (identifier, error, errorDescription)) :
    poco.toString (poco.get array 1) = .ok identifier ∧
      poco.toString (poco.get array 2) = .ok error ∧
      poco.toString (poco.get array 3) = .ok errorDescription := by
  obtain ⟨first, h₁, hrest⟩ := bind_eq_ok.mp h
  obtain ⟨second, h₂, hlast⟩ := bind_eq_ok.mp hrest
  obtain ⟨third, h₃, htriple⟩ := bind_eq_ok.mp hlast
  cases htriple
  exact ⟨h₁, h₂, h₃⟩

theorem parseEvent_eq_ok {name jsonData : Bytes}
    (h : parseEvent poco array = .ok (name, jsonData)) :
    poco.toString (poco.get array 1) = .ok name ∧
      poco.toString (poco.get array 2) = .ok jsonData :=
  pair_eq_ok h

-- A message that is one for a callback goes through the whole try block.
theorem dispatch_of_carries (h : Carries poco hasElement message invocation)
    (handler : LcuWampHandler) :
    handler.dispatch poco message = .ok (handler.invoke invocation) := by
  cases h with
  | callResult hp hc h₁ h₂ =>
      rw [dispatch_of_parses hp]
      simp only [dispatchArray, hc.2, parseCallResult, h₁.2, h₂.2, bind, Except.bind, pure,
        Except.pure, WampMessageType.value, if_true]
      rfl
  | callError hp hc h₁ h₂ h₃ =>
      rw [dispatch_of_parses hp]
      simp only [dispatchArray, hc.2, parseCallError, h₁.2, h₂.2, h₃.2, bind, Except.bind, pure,
        Except.pure, WampMessageType.value, if_true]
      rfl
  | event hp hc h₁ h₂ =>
      rw [dispatch_of_parses hp]
      simp only [dispatchArray, hc.2, parseEvent, h₁.2, h₂.2, bind, Except.bind, pure,
        Except.pure, WampMessageType.value, if_true]
      rfl

-- A message is for one callback at most, with one list of arguments.
theorem carries_unique {other : WampInvocation} (h : Carries poco hasElement message invocation)
    (h' : Carries poco hasElement message other) : other = invocation := by
  have hsame := (dispatch_of_carries h' allRegistered).symm.trans
    (dispatch_of_carries h allRegistered)
  have hone : ∀ invocation, allRegistered.invoke invocation = [invocation] := by
    intro invocation
    cases invocation <;> rfl
  rw [hone, hone] at hsame
  simpa using hsame

-- What the try block comes to when no exception ends it.
theorem carries_of_dispatch (he : poco.Elements hasElement)
    (h : handler.dispatch poco message = .ok invocations) :
    invocations = [] ∨
      ∃ invocation, Carries poco hasElement message invocation ∧
        invocations = handler.invoke invocation := by
  obtain ⟨array, hp, harray⟩ := parses_of_dispatch h
  obtain ⟨wampMessageId, hid, hswitch⟩ := bind_eq_ok.mp harray
  have hcode := he.code hid
  by_cases hresult : wampMessageId = WampMessageType.callResult.value
  · rw [if_pos hresult] at hswitch
    subst hresult
    obtain ⟨⟨identifier, jsonData⟩, hparsed, hreturn⟩ := bind_eq_ok.mp hswitch
    obtain ⟨h₁, h₂⟩ := parseCallResult_eq_ok hparsed
    exact Or.inr ⟨_, .callResult hp hcode (he.field h₁) (he.field h₂), (Except.ok.inj hreturn).symm⟩
  rw [if_neg hresult] at hswitch
  by_cases herror : wampMessageId = WampMessageType.callError.value
  · rw [if_pos herror] at hswitch
    subst herror
    obtain ⟨⟨identifier, error, errorDescription⟩, hparsed, hreturn⟩ := bind_eq_ok.mp hswitch
    obtain ⟨h₁, h₂, h₃⟩ := parseCallError_eq_ok hparsed
    exact Or.inr ⟨_, .callError hp hcode (he.field h₁) (he.field h₂) (he.field h₃),
      (Except.ok.inj hreturn).symm⟩
  rw [if_neg herror] at hswitch
  by_cases hevent : wampMessageId = WampMessageType.event.value
  · rw [if_pos hevent] at hswitch
    subst hevent
    obtain ⟨⟨name, jsonData⟩, hparsed, hreturn⟩ := bind_eq_ok.mp hswitch
    obtain ⟨h₁, h₂⟩ := parseEvent_eq_ok hparsed
    exact Or.inr ⟨_, .event hp hcode (he.field h₁) (he.field h₂), (Except.ok.inj hreturn).symm⟩
  rw [if_neg hevent] at hswitch
  exact Or.inl (Except.ok.inj hswitch).symm

theorem dispatchMessage_of_carries (h : Carries poco hasElement message invocation)
    (handler : LcuWampHandler) :
    handler.dispatchMessage poco message = handler.invoke invocation := by
  simp only [dispatchMessage, dispatch_of_carries h handler]

theorem dispatchMessage_of_not_carries (he : poco.Elements hasElement)
    (hn : ∀ invocation, ¬Carries poco hasElement message invocation) (handler : LcuWampHandler) :
    handler.dispatchMessage poco message = [] := by
  cases h : handler.dispatch poco message with
  | error what => simp only [dispatchMessage, h]
  | ok invocations =>
      simp only [dispatchMessage, h]
      rcases carries_of_dispatch he h with hnil | ⟨invocation, hc, -⟩
      · exact hnil
      · exact absurd hc (hn invocation)

theorem dispatchOutcome_ne_throwsPoco (handler : LcuWampHandler) (message : Bytes)
    (callback : WampInvocation → CallbackOutcome) (what : String) :
    handler.dispatchOutcome poco message callback ≠ .throwsPoco what := by
  unfold dispatchOutcome
  split
  · simp
  · split <;> simp

-- One registered callback is invoked, once and with the strings of the message,
-- or none is and the message is for none that is registered.
theorem dispatch_sound (he : poco.Elements hasElement) (handler : LcuWampHandler)
    (message : Bytes) :
    ((∃ invocation, handler.dispatchMessage poco message = [invocation] ∧
          handler.registered invocation = true ∧ Carries poco hasElement message invocation) ∨
        handler.dispatchMessage poco message = [] ∧
          ∀ invocation, handler.registered invocation = true →
            ¬Carries poco hasElement message invocation) ∧
      ∀ callback what, handler.dispatchOutcome poco message callback ≠ .throwsPoco what := by
  refine ⟨?_, dispatchOutcome_ne_throwsPoco handler message⟩
  by_cases hc : ∃ invocation, Carries poco hasElement message invocation
  · obtain ⟨invocation, hc⟩ := hc
    have hm := dispatchMessage_of_carries hc handler
    by_cases hr : handler.registered invocation = true
    · rw [invoke, if_pos hr] at hm
      exact Or.inl ⟨invocation, hm, hr, hc⟩
    · rw [invoke, if_neg hr] at hm
      refine Or.inr ⟨hm, fun other ho hother => hr ?_⟩
      rw [← carries_unique hc hother]
      exact ho
  · have hn : ∀ invocation, ¬Carries poco hasElement message invocation :=
      fun invocation h => hc ⟨invocation, h⟩
    exact Or.inr ⟨dispatchMessage_of_not_carries he hn handler, fun invocation _ => hn invocation⟩

theorem valuePoco_elements :
    valuePoco.Elements fun array index => index < array.length where
  toInt_missing array index hm := by
    simp [valuePoco, List.getElem?_eq_none (Nat.le_of_not_lt hm)]
  toString_missing array index hm := by
    simp [valuePoco, List.getElem?_eq_none (Nat.le_of_not_lt hm)]

-- A call error without its description.
def cutError : List Char := "[4, \"a\", \"b\"]".toList

def cutErrorFields : List Json := [.number 4, .string ['a'], .string ['b']]

theorem cutError_parses {array : List Json} (h : valuePoco.Parses (utf8 cutError) array) :
    array = cutErrorFields := by
  have ht : Json.Text cutError (.array cutErrorFields) := Json.parse_sound rfl
  obtain ⟨var, hparse, hextract⟩ := h
  obtain ⟨value, hvalue, rfl⟩ := valuePoco_documented.parse _ _ ht
  rw [hparse] at hvalue
  cases hvalue
  simpa [valuePoco, eq_comm] using hextract

-- Two of its fields convert, and nothing is invoked.
theorem dispatch_sound_cutError :
    allRegistered.dispatchMessage valuePoco (utf8 cutError) = [] := by
  rcases (dispatch_sound valuePoco_elements allRegistered (utf8 cutError)).1 with
    ⟨invocation, -, -, hc⟩ | ⟨hm, -⟩
  · exfalso
    cases hc with
    | callResult hp hcode _ _ | event hp hcode _ _ =>
        rw [cutError_parses hp] at hcode
        simp [PocoJson.Code, valuePoco, cutErrorFields] at hcode
    | callError hp _ _ _ h₃ =>
        rw [cutError_parses hp] at h₃
        exact absurd h₃.1 (by decide)
  · exact hm

end LcuWampHandler

end Rito
