import ChatService.Proofs.Hub.Conduct

/-!
# Refusals leave no trace

A step that answers with an error does nothing else: the error goes to the caller alone,
it names the reason for which the step was refused, and the hub stays as it was.
-/

namespace ChatService

open Effect (sent)

namespace Hub

/-- When a reachable hub answers a step with an error, that error is all that it sends. It goes to the caller
and carries message and code of the reason for which the step was refused. The hub is as before: accounts,
indexes, sessions, messages, contacts, the identities drawn, and the chat log. -/
theorem refusal_leaves_no_trace {hub : Hub} (reachable : hub.Reachable) {step : Step} {effect : Effect}
    {message : Text} {code : String} (done : effect ∈ (hub.perform step).effects)
    (isError : effect.reply? = some (.error message code)) :
    sent (hub.perform step).effects = [.caller step.connection (.error message code)] ∧
      (∃ refusal, hub.fault? step = some refusal ∧ message = refusal.message ∧ code = refusal.kind.code) ∧
      (hub.perform step).hub = hub := by
  have conduct := conduct reachable.linked step
  have shown : effect ∈ sent (hub.perform step).effects := Effect.mem_sent_iff.2 ⟨done, by simp [isError]⟩
  unfold Conducted at conduct
  generalize hub.posted? step = posted, (hub.perform step).hub = hub',
    sent (hub.perform step).effects = effects at conduct shown ⊢
  cases conduct with
  | @refused refusal fault calm =>
    rw [List.mem_singleton] at shown
    subst shown
    cases isError
    exact ⟨rfl, ⟨refusal, fault, rfl, rfl⟩, rfl⟩
  | @answered _ reply others _ _ _ personal delivered =>
    -- Whoever gets the answer, it is no error.
    have answer : effect.reply? = some reply := by
      rcases List.mem_cons.1 shown with rfl | told
      · rfl
      · rcases delivered with rfl | ⟨other, rfl⟩
        · cases told
        · rw [List.mem_singleton.1 told]
          rfl
    rw [isError, Option.some.injEq] at answer
    subst answer
    cases personal
  | silent => cases shown
  | posted =>
    rw [List.mem_singleton] at shown
    subst shown
    cases isError
  | loggedIn =>
    simp only [List.mem_cons, List.not_mem_nil, or_false] at shown
    rcases shown with rfl | rfl <;> cases isError
  | left _ _ _ acknowledged =>
    have plain : effect = .caller step.connection .logoutSuccess ∨ effect = .all (.onlineUsers hub'.store.online) := by
      rcases acknowledged with rfl | rfl
      · exact .inr (List.mem_singleton.1 shown)
      · simpa using shown
    rcases plain with rfl | rfl <;> cases isError

/-- Somebody logged in fails to log in again with the wrong password and stays logged in. -/
theorem refusal_leaves_no_trace_of_wrong_password :
    let start := create (.empty .plain 10 10) (.empty 60 Instant.uptime) ⟨[], []⟩ .default
    let hub := start.advance
      [⟨⟨1⟩, "c", .register (some "alice") (some "a@x") (some "secret")⟩,
       ⟨⟨2⟩, "c", .login (some "alice") (some "secret")⟩]
    let step : Step := ⟨⟨3⟩, "c", .login (some "alice") (some "wrong")⟩
    (hub.store.session? "c").map (·.username) = some "alice" ∧
      sent (hub.perform step).effects = [.caller "c" (.error "Invalid username or password" "auth_error")] ∧
      (hub.perform step).hub = hub := by
  intro start hub step
  have reachable : hub.Reachable := ⟨.plain, 10, 10, .empty 60 Instant.uptime, ⟨[], []⟩, .default, _, rfl⟩
  have done : Effect.caller "c" (.error "Invalid username or password" "auth_error") ∈ (hub.perform step).effects := by
    decide +kernel
  obtain ⟨alone, -, same⟩ := refusal_leaves_no_trace reachable done rfl
  exact ⟨by decide +kernel, alone, same⟩

end Hub

end ChatService
