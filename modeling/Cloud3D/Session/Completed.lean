import Cloud3D.Session.Basic

/-!
# What a completed heartbeat stands for

`sendBeat` returns after a heartbeat that was answered `OK`, or after a registration
that was. Such an answer is only given by the balancer while the call waits for it,
and at that instant the registry holds a node with the address and the clock reading.
-/

namespace Cloud3D

namespace Session

variable {float ι : Type} [DecidableEq ι] {establisher : ι → BalancerEstablisher float}

/-- The provider has called `sendBeat`, which has not returned. -/
def Control.inSendBeat : Control float → Bool
  | .calling .run => false
  | .calling .beat => false
  | .calling .retry => true
  | .waiting .run _ => false
  | .waiting .beat _ => true
  | .waiting .retry _ => true

/-- A call that returns out of `sendBeat` was answered `OK`. -/
theorem ok_of_resume {place : Place} {rpc : Rpc float} {status : Status}
    (inside : (Control.waiting place rpc).inSendBeat = true)
    (left : (resume place status : Control float) = .calling .beat) : status = .OK := by
  cases place <;> cases status <;> simp_all [resume, Control.inSendBeat, Status.ok]

/-- Among these steps the balancer processed a message of the provider, and then held a
node with its address and the time of the step. -/
def Contacted (establisher : ι → BalancerEstablisher float) (system : System ι float) (i : ι)
    (during : List (Label ι)) : Prop :=
  ∃ earlier now later place message, during = earlier ++ .process i now :: later ∧
    (Transition.run (step establisher) system earlier).control i =
      .waiting place (.requested message) ∧
    message.address = (establisher i).srvAddress ∧
    ∃ server ∈ (Transition.run (step establisher) system
        (earlier ++ [.process i now])).balancer.servers,
      server.address = (establisher i).srvAddress ∧ server.lastBeat = now

theorem Contacted.concat {system : System ι float} {i : ι} {during : List (Label ι)}
    (contacted : Contacted establisher system i during) (label : Label ι) :
    Contacted establisher system i (during ++ [label]) := by
  obtain ⟨earlier, now, later, place, message, rfl, rest⟩ := contacted
  exact ⟨earlier, now, later ++ [label], place, message, by simp, rest⟩

/-- An answer `OK` that a provider waits for has been given since it made the call. -/
theorem contacted_of_answered {heartBeatRate : Int} {before during : List (Label ι)} {i : ι}
    (unanswered : ∀ place status, (after establisher heartBeatRate before).control i ≠
      .waiting place (.answered status)) :
    Transition.Always (step establisher) (after establisher heartBeatRate before) during
      fun taken system => ∀ place, system.control i = .waiting place (.answered .OK) →
        Contacted establisher (after establisher heartBeatRate before) i taken := by
  apply Transition.always_of_step
  · intro place answered
    exact absurd answered (unanswered place .OK)
  · intro taken label _ contacted place answered
    rcases (moves_step establisher _ label i).of_waiting answered with
      same | ⟨_, _, _, _, sent⟩ | ⟨now, message, rfl, waited, status, registry⟩
    · exact (contacted place same).concat label
    · cases sent
    · obtain ⟨server, member, address, contact⟩ :=
        LoadBalanceImpl.contacted_of_receive_OK (Rpc.answered.inj status).symm
      have own : message.address = (establisher i).srvAddress := by
        rw [← after_append] at waited
        exact (sent_after establisher heartBeatRate (before ++ taken)).address waited
      refine ⟨taken, now, [], place, message, rfl, waited, own, server, ?_, address.trans own,
        contact⟩
      rw [Transition.run_append, Transition.run_cons, Transition.run_nil, registry]
      exact member

/-- Whatever network, balancer and other providers do: between the call of `sendBeat`
and its return, the balancer processed a message of the provider and right after that
held a node of it with the time of this very step. -/
theorem contacted_of_completed (establisher : ι → BalancerEstablisher float)
    (heartBeatRate : Int) (i : ι) {before during : List (Label ι)} {call last : Label ι}
    (sleeping : (after establisher heartBeatRate before).control i = .calling .beat)
    (inside : ∀ taken, taken <+: during →
      ((after establisher heartBeatRate (before ++ [call] ++ taken)).control i).inSendBeat = true)
    (left : (after establisher heartBeatRate (before ++ [call] ++ during ++ [last])).control i =
      .calling .beat) :
    Contacted establisher (after establisher heartBeatRate (before ++ [call])) i during := by
  have unanswered : ∀ place status, (after establisher heartBeatRate (before ++ [call])).control i ≠
      .waiting place (.answered status) := by
    intro place status answered
    rw [after_concat] at answered
    rcases (moves_step establisher _ call i).of_waiting answered with
      same | ⟨_, _, _, _, sent⟩ | ⟨_, _, _, waited, _, _⟩
    · cases sleeping.symm.trans same
    · cases sent
    · cases sleeping.symm.trans waited
  have contacted := contacted_of_answered unanswered during (List.prefix_refl during)
  have waiting := inside during (List.prefix_refl during)
  rw [after_append] at waiting
  rw [after_concat, after_append] at left
  rcases (moves_step establisher _ last i).of_calling left with
    same | ⟨origin, status, _, waited, resumed⟩ | ⟨_, origin, rpc, _, waited, resumed⟩
  · rw [same] at waiting
    cases waiting
  · rw [waited] at waiting
    obtain rfl := ok_of_resume waiting resumed
    exact contacted origin waited
  · rw [waited] at waiting
    cases ok_of_resume waiting resumed

/-- The first registration is lost, the heartbeat refused, and the second registration
reaches the balancer on the second attempt. -/
theorem contacted_of_completed_retry :
    let establisher : Unit → BalancerEstablisher Int := fun _ => ⟨"provider:1", 1, 0⟩
    let before : List (Label Unit) := [.call () 0 ["MeshSmooth"], .lose () false]
    let during : List (Label Unit) := [.process () 1000, .answer (),
      .call () 7 ["MeshSmooth"], .lose () false, .restart,
      .call () 7 ["MeshSmooth"], .process () 5000]
    Contacted establisher (after establisher 1000 (before ++ [.call () 7 []])) () during := by
  intro establisher before during
  have inside : ∀ taken ∈ during.inits, ((after establisher 1000
      (before ++ [.call () 7 []] ++ taken)).control ()).inSendBeat = true := by
    decide
  have left : (after establisher 1000
      (before ++ [.call () 7 []] ++ during ++ [.answer ()])).control () = .calling .beat := rfl
  exact contacted_of_completed establisher 1000 () rfl
    (fun taken first => inside taken ((List.mem_inits taken during).mpr first)) left

end Session

end Cloud3D
