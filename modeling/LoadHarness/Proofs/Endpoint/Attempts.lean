import Mathlib
import LoadHarness.Endpoint
import LoadHarness.Proofs.Float.Sign

/-!
# Every attempt resolves to a sample

Submitting an order never fails: whatever the transport does, the attempt ends in a sample.
This module says which one.

Sending (`Endpoint.send_cases`) either refuses before anything reaches the transport, when the
address cannot be read or a header cannot be encoded, or hands the transport one POST of the
order with its headers (`SentHeaders`), and then takes the status of the response, or the fault
of the exception raised.  From that inversion lemma:

* a status reaches the client only as the transport's reply (`Endpoint.send_ok`);
* a timeout only as an exception of a timeout kind (`Endpoint.send_timeout`);
* every other fault is recorded with a class that is not a timeout and its message, and an
  exception of the transport keeps its own (`Endpoint.send_fault`).

The latency is the time between two clock readings in milliseconds; a clock that does not go
back gives a latency that is not below zero (`zero_le_elapsed`, from `Proofs/Float/Sign`).  The
address is the base address less its trailing slashes, followed by the path (`url_ofParts`).
`submit_resolves_every_attempt` puts these together.
-/

namespace LoadHarness

/-- The headers of an order as they reach the transport: names in lower case, the content type,
the encoded idempotency key and, when an API key is configured, the encoded API key. -/
def SentHeaders (endpoint : Endpoint) (key : Value) (headers : List (String × String)) : Prop :=
  ∃ sentKey, Header.encode key = .ok sentKey ∧
    if endpoint.apiKey.truthy then
      ∃ sentApiKey, Header.encode endpoint.apiKey = .ok sentApiKey ∧
        headers = [("content-type", "application/json"), ("idempotency-key", sentKey),
          ("x-api-key", sentApiKey)]
    else headers = [("content-type", "application/json"), ("idempotency-key", sentKey)]

namespace Header

/-- A value that cannot be a header value is refused as not text, or as text outside ASCII. -/
theorem encode_error {value : Value} {failure : Failure} (refused : encode value = .error failure) :
    (∃ fault, failure = .headerNotAscii fault) ∨ ∃ kind, failure = .headerType kind := by
  unfold encode at refused
  split at refused
  · split at refused
    · cases refused
      exact .inl ⟨_, rfl⟩
    · cases refused
  · cases refused
    exact .inr ⟨_, rfl⟩

theorem encode_contentType : encode (.str "application/json") = .ok "application/json" := rfl

end Header

namespace SendFault

/-- An exception of the transport is a timeout exactly when its kind is one of the timeouts. -/
theorem ofRaised_cases (kind message : String) :
    (kind ∈ timeoutKinds ∧ ofRaised kind message = .timeout kind) ∨
      (kind ∉ timeoutKinds ∧ ofRaised kind message = .raised kind message) := by
  unfold ofRaised
  by_cases timeout : kind ∈ timeoutKinds
  · exact .inl ⟨timeout, by simp [timeout]⟩
  · exact .inr ⟨timeout, by simp [timeout]⟩

end SendFault

namespace Endpoint

/-! ### Headers -/

section Headers

variable {endpoint : Endpoint} {key : Value}

/-- The headers of an order encode as the idempotency key does and, when one is sent, the API
key. -/
theorem mapM_headers (endpoint : Endpoint) (key : Value) :
    (endpoint.headers key).mapM (fun (name, value) => (Header.encode value).map (name, ·)) =
      (Header.encode key).bind fun sentKey =>
        if endpoint.apiKey.truthy then
          (Header.encode endpoint.apiKey).map fun sentApiKey =>
            [("Content-Type", "application/json"), ("Idempotency-Key", sentKey), ("X-API-Key", sentApiKey)]
        else .ok [("Content-Type", "application/json"), ("Idempotency-Key", sentKey)] := by
  cases truthy : endpoint.apiKey.truthy <;>
    simp only [headers, truthy, if_true, List.cons_append, List.nil_append, List.mapM_cons,
      List.mapM_nil] <;>
    cases Header.encode key <;> cases Header.encode endpoint.apiKey <;> rfl

theorem sentHeaders_of_ok {encoded : List (String × String)}
    (sent : (endpoint.headers key).mapM (fun (name, value) => (Header.encode value).map (name, ·)) =
      .ok encoded) :
    SentHeaders endpoint key (encoded.map fun (name, value) => (Ascii.lower name, value)) := by
  rw [mapM_headers] at sent
  cases keyEncoded : Header.encode key with
  | error failure => simp [keyEncoded, Except.bind] at sent
  | ok sentKey =>
      refine ⟨sentKey, keyEncoded, ?_⟩
      rw [keyEncoded] at sent
      cases truthy : endpoint.apiKey.truthy with
      | false =>
          simp only [Except.bind, truthy] at sent
          cases sent
          rfl
      | true =>
          cases apiKeyEncoded : Header.encode endpoint.apiKey with
          | error failure => simp [Except.bind, truthy, apiKeyEncoded, Except.map] at sent
          | ok sentApiKey =>
              simp only [Except.bind, truthy, apiKeyEncoded, Except.map, if_true] at sent
              cases sent
              exact ⟨sentApiKey, rfl, rfl⟩

/-- Headers that cannot be encoded are refused by the encoding of one of their values, and then
no headers are sent at all. -/
theorem refused_of_error {failure : Failure}
    (refused : (endpoint.headers key).mapM (fun (name, value) => (Header.encode value).map (name, ·)) =
      .error failure) :
    (∀ headers, ¬ SentHeaders endpoint key headers) ∧
      ((∃ fault, failure = .headerNotAscii fault) ∨ ∃ kind, failure = .headerType kind) := by
  rw [mapM_headers] at refused
  cases keyEncoded : Header.encode key with
  | error keyFailure =>
      simp only [keyEncoded, Except.bind, Except.error.injEq] at refused
      subst refused
      exact ⟨fun headers ⟨sentKey, encoded, _⟩ => by simp [keyEncoded] at encoded,
        Header.encode_error keyEncoded⟩
  | ok sentKey =>
      rw [keyEncoded] at refused
      cases truthy : endpoint.apiKey.truthy with
      | false => simp [Except.bind, truthy] at refused
      | true =>
          cases apiKeyEncoded : Header.encode endpoint.apiKey with
          | ok sentApiKey => simp [Except.bind, truthy, apiKeyEncoded, Except.map] at refused
          | error apiKeyFailure =>
              simp only [Except.bind, truthy, apiKeyEncoded, Except.map, if_true, Except.error.injEq]
                at refused
              subst refused
              refine ⟨fun headers ⟨sentKey', _, rest⟩ => ?_, Header.encode_error apiKeyEncoded⟩
              simp only [truthy, if_true] at rest
              obtain ⟨sentApiKey, encoded, -⟩ := rest
              simp [apiKeyEncoded] at encoded

end Headers

/-! ### Sending -/

/-- What sending does: refuse an address that cannot be read, or headers that cannot be
encoded, before anything reaches the transport; otherwise hand the transport one POST of the
order, and take the fault of the exception it raises, or its status at an absolute address. -/
theorem send_cases (endpoint : Endpoint) (reply : Reply) (order : Order) (key : Value) :
    (∃ message, Address.parse endpoint.url = .error message ∧
        endpoint.send reply order key = (none, .error (.invalidUrl message))) ∨
      (∃ failure, (∃ address, Address.parse endpoint.url = .ok address) ∧
        (∀ headers, ¬ SentHeaders endpoint key headers) ∧
        ((∃ fault, failure = .headerNotAscii fault) ∨ ∃ kind, failure = .headerType kind) ∧
        endpoint.send reply order key = (none, .error (.header failure))) ∨
      ∃ address headers, Address.parse endpoint.url = .ok address ∧ SentHeaders endpoint key headers ∧
        (endpoint.send reply order key).1 = some ⟨"POST", headers, order.toJson⟩ ∧
        (∀ kind message, reply = .raise kind message →
          (endpoint.send reply order key).2 = .error (SendFault.ofRaised kind message)) ∧
        (∀ code, reply = .status code → (endpoint.send reply order key).2 =
          if address.isAbsolute then .ok code else .error (.unknownUrlType address.againstEmptyBase)) := by
  unfold send
  split
  · rename_i message parsed
    exact .inl ⟨message, parsed, rfl⟩
  · rename_i address parsed
    split
    · rename_i failure refused
      obtain ⟨unsent, refusal⟩ := refused_of_error refused
      exact .inr (.inl ⟨failure, ⟨address, parsed⟩, unsent, refusal, rfl⟩)
    · rename_i encoded sent
      refine .inr (.inr ⟨address, _, parsed, sentHeaders_of_ok sent, rfl, ?_, ?_⟩)
      · rintro kind message rfl
        rfl
      · rintro code rfl
        rfl

section Outcome

variable (endpoint : Endpoint) (reply : Reply) (order : Order) (key : Value)

/-- A status reaches the client only as the transport's reply. -/
theorem send_ok {code : Int} (ok : (endpoint.send reply order key).2 = .ok code) :
    reply = .status code := by
  rcases send_cases endpoint reply order key with ⟨message, -, sent⟩ | ⟨failure, -, -, -, sent⟩ |
      ⟨address, headers, -, -, -, raised, answered⟩
  · rw [sent] at ok
    cases ok
  · rw [sent] at ok
    cases ok
  · cases reply with
    | raise kind message =>
        rw [raised kind message rfl] at ok
        cases ok
    | status given =>
        rw [answered given rfl] at ok
        split at ok
        · cases ok
          rfl
        · cases ok

/-- A timeout reaches the client only as an exception of a timeout kind raised by the
transport. -/
theorem send_timeout {kind : String}
    (timeout : (endpoint.send reply order key).2 = .error (.timeout kind)) :
    (∃ message, reply = .raise kind message) ∧ kind ∈ SendFault.timeoutKinds := by
  rcases send_cases endpoint reply order key with ⟨message, -, sent⟩ | ⟨failure, -, -, -, sent⟩ |
      ⟨address, headers, -, -, -, raised, answered⟩
  · rw [sent] at timeout
    cases timeout
  · rw [sent] at timeout
    cases timeout
  · cases reply with
    | raise raisedKind message =>
        rw [raised raisedKind message rfl] at timeout
        rcases SendFault.ofRaised_cases raisedKind message with ⟨isTimeout, eq⟩ | ⟨-, eq⟩ <;>
          rw [eq] at timeout <;> cases timeout
        exact ⟨⟨message, rfl⟩, isTimeout⟩
    | status code =>
        rw [answered code rfl] at timeout
        split at timeout <;> cases timeout

/-- Any other fault is recorded as an exception that is not a timeout, with its class and
message; an exception of the transport keeps its own. -/
theorem send_fault {fault : SendFault} (faulted : (endpoint.send reply order key).2 = .error fault)
    (notTimeout : ∀ kind, fault ≠ .timeout kind) :
    ∃ failure : Failure, fault.outcome = failure.outcomeText ∧ failure.className ∉ SendFault.timeoutKinds ∧
      ∀ kind message, reply = .raise kind message → (endpoint.send reply order key).1.isSome →
        failure = .raised kind message := by
  rcases send_cases endpoint reply order key with ⟨message, -, sent⟩ | ⟨failure, -, -, refusal, sent⟩ |
      ⟨address, headers, -, -, -, raised, answered⟩
  · -- an address that cannot be read
    rw [sent] at faulted ⊢
    cases faulted
    refine ⟨.raised "InvalidURL" message, rfl, by simp [Failure.className, SendFault.timeoutKinds], ?_⟩
    intro kind message' _ sentSome
    cases sentSome
  · -- a header that cannot be encoded
    rw [sent] at faulted ⊢
    cases faulted
    refine ⟨failure, rfl, ?_, fun kind message _ sentSome => by cases sentSome⟩
    rcases refusal with ⟨encodeFault, rfl⟩ | ⟨kindName, rfl⟩ <;>
      simp [Failure.className, SendFault.timeoutKinds]
  · cases reply with
    | raise kind message =>
        rw [raised kind message rfl] at faulted
        rcases SendFault.ofRaised_cases kind message with ⟨-, eq⟩ | ⟨notTimeoutKind, eq⟩ <;>
          rw [eq] at faulted <;> cases faulted
        · exact absurd rfl (notTimeout kind)
        · refine ⟨.raised kind message, rfl, notTimeoutKind, ?_⟩
          intro kind' message' same _
          cases same
          rfl
    | status code =>
        -- a response at an address without a scheme is refused when it is read
        rw [answered code rfl] at faulted
        split at faulted
        · cases faulted
        · cases faulted
          refine ⟨.raised "ValueError" ("unknown url type: " ++ Quoted.quote address.againstEmptyBase), rfl,
            by simp [Failure.className, SendFault.timeoutKinds], ?_⟩
          intro kind message raise
          cases raise

/-- A request reaches the transport only as one POST of the order, with its headers. -/
theorem send_request : ∀ request ∈ (endpoint.send reply order key).1,
    request.method = "POST" ∧ request.body = order.toJson ∧ SentHeaders endpoint key request.headers := by
  intro request sentRequest
  rcases send_cases endpoint reply order key with ⟨message, -, sent⟩ | ⟨failure, -, -, -, sent⟩ |
      ⟨address, headers, -, sentHeaders, requested, -, -⟩
  · rw [sent] at sentRequest
    cases sentRequest
  · rw [sent] at sentRequest
    cases sentRequest
  · rw [requested] at sentRequest
    cases sentRequest
    exact ⟨rfl, rfl, sentHeaders⟩

/-- A request reaches the transport exactly when the address can be read and the headers
encoded. -/
theorem send_isSome_iff : (endpoint.send reply order key).1.isSome ↔
    (∃ address, Address.parse endpoint.url = .ok address) ∧ ∃ headers, SentHeaders endpoint key headers := by
  rcases send_cases endpoint reply order key with ⟨message, parsed, sent⟩ | ⟨failure, -, unsent, -, sent⟩ |
      ⟨address, headers, parsed, sentHeaders, requested, -, -⟩
  · simp [sent, parsed]
  · simp only [sent, Option.isSome_none, Bool.false_eq_true, false_iff, not_and]
    intro _ ⟨headers, sentHeaders⟩
    exact unsent headers sentHeaders
  · simp only [requested, Option.isSome_some, true_iff]
    exact ⟨⟨address, parsed⟩, headers, sentHeaders⟩

end Outcome

/-! ### Recording -/

/-- Submitting is sending, then recording the outcome with the time between the two clock
readings in milliseconds. -/
theorem submit_eq (endpoint : Endpoint) (reply : Reply) (order : Order) (key : Value)
    (started finished : Float) :
    endpoint.submit reply order key started finished =
      ⟨(endpoint.send reply order key).1,
        endpoint.record (endpoint.send reply order key).2 ((finished - started) * 1000.0)⟩ := by
  unfold submit
  rfl

theorem latencyMs_record (endpoint : Endpoint) (outcome : Except SendFault Int) (latency : Float) :
    (endpoint.record outcome latency).latencyMs = latency := by
  cases outcome <;> rfl

end Endpoint

/-- A thousand, the milliseconds in a second, is a positive finite double. -/
theorem thousand_pos_finite : (0.0 : Float) < 1000.0 ∧ Binary.isFinite 1000.0 = true := by
  decide +kernel

/-- The time between two readings of a clock that does not go back, in milliseconds, is not
below zero. -/
theorem zero_le_elapsed {started finished : Float} (finiteStarted : Binary.isFinite started = true)
    (finiteFinished : Binary.isFinite finished = true) (monotonic : started ≤ finished) :
    (0.0 : Float) ≤ (finished - started) * 1000.0 :=
  zero_le_mul (zero_le_sub finiteFinished finiteStarted monotonic) thousand_pos_finite.1
    thousand_pos_finite.2

/-- The address of an endpoint is its base address less all trailing slashes, then the path. -/
theorem url_ofParts (baseUrl path : String) (apiKey : Value) (success : SuccessRule) :
    ∃ stem slashes, (Endpoint.ofParts baseUrl path apiKey success).url = stem ++ path ∧
      baseUrl = stem ++ String.ofList (List.replicate slashes '/') ∧ stem.toList.getLast? ≠ some '/' := by
  have last := List.head?_dropWhile_not (· == '/') baseUrl.toList.reverse
  have slashes : ∀ c ∈ baseUrl.toList.reverse.takeWhile (· == '/'), c = '/' := fun c mem => by
    simpa using List.mem_takeWhile_imp mem
  have split := List.takeWhile_append_dropWhile (p := (· == '/')) (l := baseUrl.toList.reverse)
  refine ⟨String.ofList (baseUrl.toList.reverse.dropWhile (· == '/')).reverse,
    (baseUrl.toList.reverse.takeWhile (· == '/')).length, rfl, ?_, ?_⟩
  · -- read backwards, the address is its trailing slashes and then the rest
    generalize baseUrl.toList.reverse.takeWhile (· == '/') = trailing at slashes split ⊢
    generalize baseUrl.toList.reverse.dropWhile (· == '/') = rest at split ⊢
    have replicated : trailing = List.replicate trailing.length '/' :=
      List.eq_replicate_iff.2 ⟨rfl, slashes⟩
    apply String.toList_injective
    rw [String.toList_append, String.toList_ofList, String.toList_ofList]
    calc baseUrl.toList = (trailing ++ rest).reverse := by rw [split, List.reverse_reverse]
      _ = rest.reverse ++ trailing.reverse := List.reverse_append
      _ = rest.reverse ++ List.replicate trailing.length '/' := by
          conv_lhs => rw [replicated, List.reverse_replicate]
  · -- what is left ends in anything but a slash
    rw [String.toList_ofList, List.getLast?_reverse]
    intro slash
    rw [slash] at last
    simp at last

/-- Submitting an order to the endpoint of a base address and a path, with a clock that does
not go back, resolves every attempt to a sample timed by the clock, not below zero:

* a status the client receives is the transport's reply, and the sample carries it, succeeding
  by the endpoint's rule;
* a timeout is an exception of a timeout kind, recorded as `timeout:` and its kind;
* any other fault is recorded as `error:`, a class that is not a timeout and a message, and an
  exception of the transport keeps its class and message;
* a request reaches the transport exactly when the address can be read and the headers encoded,
  and then only as one POST of the order with the content type, the idempotency key and, when
  one is configured, the API key;
* the address is the base address less its trailing slashes, then the path. -/
theorem submit_resolves_every_attempt (baseUrl path : String) (apiKey : Value) (success : SuccessRule)
    (reply : Reply) (order : Order) (key : Value) {started finished : Float}
    (finiteStarted : Binary.isFinite started = true) (finiteFinished : Binary.isFinite finished = true)
    (monotonic : started ≤ finished) :
    let endpoint := Endpoint.ofParts baseUrl path apiKey success
    let outcome := (endpoint.send reply order key).2
    let exchange := endpoint.submit reply order key started finished
    let latency := (finished - started) * 1000.0
    (exchange.sample.latencyMs = latency ∧ (0.0 : Float) ≤ latency) ∧
      (∀ code, outcome = .ok code →
        reply = .status code ∧ exchange.sample = ⟨latency, endpoint.isSuccess code, some code, none⟩) ∧
      (∀ kind, outcome = .error (.timeout kind) →
        (∃ message, reply = .raise kind message) ∧ kind ∈ SendFault.timeoutKinds ∧
          exchange.sample = ⟨latency, false, none, some ("timeout:" ++ kind)⟩) ∧
      (∀ fault, outcome = .error fault → (∀ kind, fault ≠ .timeout kind) →
        ∃ failure : Failure, failure.className ∉ SendFault.timeoutKinds ∧
          exchange.sample = ⟨latency, false, none, some failure.outcomeText⟩ ∧
          ∀ kind message, reply = .raise kind message → exchange.request.isSome →
            failure = .raised kind message) ∧
      (∀ request ∈ exchange.request, request.method = "POST" ∧ request.body = order.toJson ∧
        SentHeaders endpoint key request.headers) ∧
      (exchange.request.isSome ↔
        (∃ address, Address.parse endpoint.url = .ok address) ∧ ∃ headers, SentHeaders endpoint key headers) ∧
      ∃ stem slashes, endpoint.url = stem ++ path ∧
        baseUrl = stem ++ String.ofList (List.replicate slashes '/') ∧ stem.toList.getLast? ≠ some '/' := by
  have url := url_ofParts baseUrl path apiKey success
  -- from here on the endpoint is any endpoint: nothing below reads its address
  generalize Endpoint.ofParts baseUrl path apiKey success = endpoint at url ⊢
  intro endpoint outcome exchange latency
  have sample : exchange.sample = endpoint.record outcome latency := by
    simp only [exchange, outcome, latency, Endpoint.submit_eq]
  have request : exchange.request = (endpoint.send reply order key).1 := by
    simp only [exchange, Endpoint.submit_eq]
  refine ⟨⟨by rw [sample, Endpoint.latencyMs_record], zero_le_elapsed finiteStarted finiteFinished monotonic⟩,
    ?_, ?_, ?_, request ▸ Endpoint.send_request endpoint reply order key,
    request ▸ Endpoint.send_isSome_iff endpoint reply order key, url⟩
  · intro code ok
    refine ⟨Endpoint.send_ok endpoint reply order key ok, ?_⟩
    rw [sample, ok]
    rfl
  · intro kind timeout
    obtain ⟨raised, timeoutKind⟩ := Endpoint.send_timeout endpoint reply order key timeout
    refine ⟨raised, timeoutKind, ?_⟩
    rw [sample, timeout]
    rfl
  · intro fault faulted notTimeout
    obtain ⟨failure, recorded, notTimeoutKind, transport⟩ :=
      Endpoint.send_fault endpoint reply order key faulted notTimeout
    refine ⟨failure, notTimeoutKind, ?_, request ▸ transport⟩
    rw [sample, faulted, ← recorded]
    rfl

/-- Readings of a clock at rest, and a base address with a trailing slash: the latency of a
rejected order is not below zero. -/
theorem submit_resolves_every_attempt_at_rest :
    Binary.isFinite 0.0 = true ∧ (0.0 : Float) ≤ 0.0 ∧
      (0.0 : Float) ≤ ((Endpoint.ofParts "http://target.test:8080/" "/v1/orders" (.str "secret") .anyOk).submit
        (.status 429) default (.str "load-1") 0.0 0.0).sample.latencyMs := by
  have finite : Binary.isFinite 0.0 = true := rfl
  have atRest : (0.0 : Float) ≤ 0.0 := le_iff_unpack_le.2 rfl
  obtain ⟨⟨timed, nonneg⟩, -⟩ := submit_resolves_every_attempt "http://target.test:8080/" "/v1/orders"
    (.str "secret") .anyOk (.status 429) default (.str "load-1") finite finite atRest
  exact ⟨finite, atRest, timed ▸ nonneg⟩

end LoadHarness
