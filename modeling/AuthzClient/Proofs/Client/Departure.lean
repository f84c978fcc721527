import AuthzClient.Proofs.Client.Connection
import AuthzClient.Proofs.Entries

/-!
The headers with which a message departs. Behind a call stands the transport, which adds the configured user agent to
every message that has none. A header that a call takes away is therefore gone for good, unless it is the user agent.
-/

namespace AuthzClient

open Http Text

namespace Entries

variable {α : Type} {name : HeaderName} {entries : Entries α}

/-- A header is taken away under one key, and no later key sets it again. -/
def Removes (name : HeaderName) (entries : Entries (Option α)) : Prop :=
  ∃ key, (key, none) ∈ entries ∧ lower key = name.text ∧
    ∀ entry ∈ entries, lower entry.1 = name.text → key < entry.1 → entry.2 = none

theorem exists_latest? {entry : String × α} (inside : entry ∈ entries) (named : lower entry.1 = name.text) :
    ∃ value, latest? name entries = some value := by
  have kept : entry ∈ entries.filter fun entry => lower entry.1 = name.text :=
    List.mem_filter.mpr ⟨inside, by simpa using named⟩
  exact ⟨_, congrArg (Option.map Prod.snd) (List.getLast?_eq_some_getLast (List.ne_nil_of_mem kept))⟩

theorem latest?_of_removes {entries : Entries (Option α)} (ascending : entries.Ascending)
    (removes : entries.Removes name) : latest? name entries = some none := by
  obtain ⟨key, inside, named, later⟩ := removes
  obtain ⟨value, latest⟩ := exists_latest? inside named
  obtain ⟨last, member, mine, greatest⟩ := (latest?_eq_some_iff ascending name value).mp latest
  -- The last key for the name is this one or one behind it.
  suffices gone : value = none by rw [latest, gone]
  by_cases same : key = last
  · subst same
    exact value_unique ascending member inside
  · exact later _ member mine (Std.lt_of_le_of_ne (greatest _ inside named) same)

end Entries

namespace Client

variable {config : Configuration} {there : Connected} {request prepared : Request} {options : Options}
  {plan : RetryPlan} {name : HeaderName}

/-- A connected client is the one of its configuration, behind a transport that adds its user agent. -/
theorem of_connect (connected : connect config = .ok there) :
    ofConfiguration config = .ok there.client ∧
      there.transport.build = .ok [(.userAgent, .ofText config.userAgent)] := by
  obtain ⟨_, valid, _⟩ := Except.bind_eq_ok connected
  obtain ⟨client, made, _⟩ := exists_ofConfiguration valid
  obtain ⟨plain, known⟩ := exists_usesPlainHttp valid
  rw [connect_eq valid made known] at connected
  split at connected
  · rename_i legal
    cases connected
    exact ⟨made, (build_transportOf config plain).trans (if_pos legal)⟩
  · cases connected

theorem values_of_removes (taken : there.client.prepare request options = .ok (prepared, plan))
    (ascending : options.headers.Ascending) (removes : options.headers.Removes name)
    (bare : Headers.first? name request.headers = none) : Headers.values name prepared.headers = [] := by
  obtain ⟨headers, gathered, filled⟩ := headers_of_prepare taken
  rw [filled, Headers.values_fill, bare]
  dsimp only
  rw [Configuration.values_requestHeaders gathered, Configuration.settled?, Entries.latest?_of_removes ascending removes]
  rfl

/-- What the transport makes of a header that a message does not have. -/
theorem values_apply_userAgent (userAgent : HeaderValue) {headers : Headers} (none : Headers.values name headers = []) :
    Headers.values name (DefaultHeaders.apply [(.userAgent, userAgent)] headers) =
      if name = .userAgent then [userAgent] else [] := by
  rw [DefaultHeaders.apply, Headers.values_fill, Headers.first?_eq_head?, none]
  by_cases agent : name = .userAgent
  · rw [if_pos agent, agent]
    rfl
  · rw [if_neg agent]
    exact List.filterMap_cons_none (if_neg fun same => agent same.symm)

/-- A header that is taken away for a call, and that neither the request nor the authorizer nor the number of the attempt
sets, is in no message of the call as it leaves the transport, except that the user agent is there again. -/
theorem departing_of_removes (connected : connect config = .ok there)
    (taken : there.client.prepare request options = .ok (prepared, plan)) (ascending : options.headers.Ascending)
    (removes : options.headers.Removes name) (bare : Headers.first? name request.headers = none) (w : Surroundings)
    (s : Session) :
    ∃ layer, there.transport.build = .ok layer ∧
      there.client.attempt request options w s = (there.client.course prepared plan w s).result ∧
      ∃ n, (there.client.course prepared plan w s).Ended n ∧
        ∃ k, List.Forall₂ (fun i message =>
            ∃ authorization, (there.client.course prepared plan w s).authorization i = .ok authorization ∧
              ((name = .authorization → authorization = none) → (name = .retryAttempt → i = 0) →
                Headers.values name message.headers = [] ∧
                  Headers.values name (DefaultHeaders.apply layer message.headers) =
                    if name = .userAgent then [.ofText config.userAgent] else []))
          (List.range k) (((there.client.course prepared plan w s).own n).filterMap Event.message?) := by
  obtain ⟨_, built⟩ := of_connect connected
  obtain ⟨n, ended⟩ := (there.client.course prepared plan w s).exists_ended
  obtain ⟨k, writes⟩ := ended.writes
  refine ⟨_, built, attempt_eq_course taken w s, n, ended, k, writes.imp fun i message written => ?_⟩
  refine ⟨_, written.authorized.granted, fun unauthorized first => ?_⟩
  have given : ¬(name = .authorization ∧ ((there.client.course prepared plan w s).granted i).isSome) := by
    rintro ⟨call, given⟩
    rw [unauthorized call] at given
    cases given
  have counted : ¬(name = .retryAttempt ∧ 0 < i) := fun ⟨retry, later⟩ => Nat.ne_of_gt later (first retry)
  have gone : Headers.values name message.headers = [] := by
    rw [written.headers, Request.values_attemptHeaders, if_neg given, if_neg counted]
    exact values_of_removes taken ascending removes bare
  exact ⟨gone, values_apply_userAgent _ gone⟩

theorem connect_layered : connect layered.config = .ok ⟨layered, transportOf layered.config false⟩ := by
  have valid : layered.config.validate = .ok () := Except.eq_ok_of_toOption (by decide +kernel)
  have made : ofConfiguration layered.config = .ok layered := Except.eq_ok_of_toOption (by decide +kernel)
  have known : usesPlainHttp layered.config = .ok false := Except.eq_ok_of_toOption (by decide +kernel)
  exact (connect_eq valid made known).trans (if_pos (by decide +kernel))

theorem departing_of_removes_layered :
    connect layered.config = .ok ⟨layered, transportOf layered.config false⟩ ∧ layers.headers.Ascending ∧
      layers.headers.Removes ⟨"x-trace"⟩ ∧ Headers.first? ⟨"x-trace"⟩ layeredRequest.headers = none ∧
      (layered.attempt layeredRequest layers Call.Course.flaky.surroundings .fresh).2.messages.length = 3 ∧
      ∃ layer prepared plan, (transportOf layered.config false).build = .ok layer ∧
        layered.prepare layeredRequest layers = .ok (prepared, plan) ∧
        ∃ n k, List.Forall₂ (fun _ message =>
            Headers.values ⟨"x-trace"⟩ (DefaultHeaders.apply layer message.headers) = [])
          (List.range k)
          (((layered.course prepared plan Call.Course.flaky.surroundings .fresh).own n).filterMap Event.message?) := by
  have ascending : layers.headers.Ascending := Entries.ascending_ofPairs _
  have removes : layers.headers.Removes ⟨"x-trace"⟩ := ⟨"x-trace", by decide +kernel, by decide +kernel, by decide +kernel⟩
  have bare : Headers.first? ⟨"x-trace"⟩ layeredRequest.headers = none := by decide +kernel
  obtain ⟨⟨prepared, plan⟩, taken⟩ : ∃ both, layered.prepare layeredRequest layers = .ok both :=
    ⟨_, Except.eq_ok_of_toOption rfl⟩
  obtain ⟨layer, built, _, n, _, k, messages⟩ :=
    departing_of_removes connect_layered taken ascending removes bare Call.Course.flaky.surroundings .fresh
  have sent : (layered.attempt layeredRequest layers Call.Course.flaky.surroundings .fresh).2.messages.length = 3 := by
    decide +kernel
  refine ⟨connect_layered, ascending, removes, bare, sent, layer, prepared, plan, built, taken, n, k, messages.imp ?_⟩
  rintro i message ⟨_, _, departs⟩
  exact (departs (fun call => absurd call (by decide)) fun retry => absurd retry (by decide)).2

/-- Options that take the user agent away. -/
def agentless : Options := { Options.none with headers := [("User-Agent", none)] }

/-- The call has no user agent, but its message departs with one. -/
theorem not_absent_agentless :
    connect layered.config = .ok ⟨layered, transportOf layered.config false⟩ ∧ agentless.headers.Removes .userAgent ∧
      Headers.first? .userAgent layeredRequest.headers = none ∧
      ∃ message ∈ (layered.attempt layeredRequest agentless Call.Course.flaky.surroundings .fresh).2.messages,
        Headers.values .userAgent message.headers = [] ∧
        ∃ layer, (transportOf layered.config false).build = .ok layer ∧
          Headers.values .userAgent (DefaultHeaders.apply layer message.headers) =
            [.ofText "openfga-sdk rust/0.1.0"] := by
  have built := (of_connect connect_layered).2
  have some : (layered.attempt layeredRequest agentless Call.Course.flaky.surroundings .fresh).2.messages.any
      (fun message => Headers.values .userAgent message.headers = []) = true := by decide +kernel
  obtain ⟨message, sent, gone⟩ := List.any_eq_true.mp some
  have gone := of_decide_eq_true gone
  exact ⟨connect_layered, ⟨"User-Agent", by decide +kernel, by decide +kernel, by decide +kernel⟩, by decide +kernel,
    message, sent, gone, _, built, values_apply_userAgent _ gone⟩

end Client

end AuthzClient
