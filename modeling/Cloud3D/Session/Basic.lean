import Cloud3D.Balancer.Registry
import Cloud3D.Provider.Establisher
import Mathlib.Logic.Function.Basic

/-!
# Providers and balancer over an unreliable network

Every provider runs `establishServer` once, ignores its result and then keeps turning
the loop of `sendHeartBeat`. Its program counter is the place of its next call, or of
the call it waits for. The network may lose a request or a reply: the sender then sees
a status that is not `OK`, and a request given up may still be processed later.

A step of the system is one label, and a label which is not enabled leaves the system
as it is, so the lists of labels are all interleavings. Clock readings are arbitrary.
-/

namespace Cloud3D

namespace Session

variable {float : Type}

/-- The places of `BalancerEstablisher` calls in the program of a provider: the call in
`run`, the heartbeat of `sendBeat` and the condition of its inner loop. -/
inductive Place where
  | run
  | beat
  | retry
deriving DecidableEq, Repr

/-- The message which is sent from a place. -/
def Place.message (establisher : BalancerEstablisher float) (names : List String) :
    Place → Message float
  | .run => .establishServer (establisher.newServer names)
  | .beat => .sendHeartbeat establisher.heartBeat
  | .retry => .establishServer (establisher.newServer names)

theorem Place.message_address (establisher : BalancerEstablisher float) (names : List String)
    (place : Place) : (place.message establisher names).address = establisher.srvAddress := by
  cases place <;> rfl

/-- A call which has not returned: its request is on the way, or its reply. -/
inductive Rpc (float : Type) where
  | requested (message : Message float)
  | answered (status : Status)
deriving DecidableEq

/-- A provider is about to make a call, or waits for one. -/
inductive Control (float : Type) where
  | calling (place : Place)
  | waiting (place : Place) (rpc : Rpc float)
deriving DecidableEq

/-- Where a provider goes on after a call has returned. `run` ignores the result, and
`sendBeat` leaves by a heartbeat or a registration that succeeded. -/
def resume : Place → Status → Control float
  | .run, _ => .calling .beat
  | .beat, status => if status.ok then .calling .beat else .calling .retry
  | .retry, status => if status.ok then .calling .beat else .calling .retry

structure System (ι float : Type) where
  balancer : LoadBalanceImpl float
  control : ι → Control float
  late : List (Message float)

/-- The usage of a call is what the usage function left, its names those of the
services at that time. -/
inductive Label (ι : Type) where
  | call (i : ι) (usage : Int32) (names : List String)
  | process (i : ι) (now : Int)
  | processLate (k : Nat) (now : Int)
  | answer (i : ι)
  | lose (i : ι) (arrives : Bool)
  | sweep (now : Int)
  | restart
deriving DecidableEq, Repr

variable {ι : Type} [DecidableEq ι]

def System.setControl (system : System ι float) (i : ι) (control : Control float) :
    System ι float :=
  { system with control := Function.update system.control i control }

def step (establisher : ι → BalancerEstablisher float) (system : System ι float) :
    Label ι → System ι float
  | .call i usage names =>
      match system.control i with
      | .calling place =>
          system.setControl i (.waiting place
            (.requested (place.message { establisher i with usage } names)))
      | .waiting _ _ => system
  | .process i now =>
      match system.control i with
      | .waiting place (.requested message) =>
          let result := system.balancer.receive now message
          { system with balancer := result.1 }.setControl i (.waiting place (.answered result.2))
      | _ => system
  | .processLate k now =>
      match system.late[k]? with
      | some message =>
          { system with
            balancer := (system.balancer.receive now message).1
            late := system.late.eraseIdx k }
      | none => system
  | .answer i =>
      match system.control i with
      | .waiting place (.answered status) => system.setControl i (resume place status)
      | _ => system
  | .lose i arrives =>
      match system.control i with
      | .waiting place (.requested message) =>
          { system with
            late := if arrives then system.late ++ [message] else system.late }.setControl i
              (resume place .UNAVAILABLE)
      | .waiting place (.answered _) => system.setControl i (resume place .UNAVAILABLE)
      | .calling _ => system
  | .sweep now => { system with balancer := system.balancer.removeInactiveServer now }
  | .restart => { system with balancer := .initial system.balancer.heartBeatRate }

/-- No provider has made a call yet. -/
def start (heartBeatRate : Int) : System ι float :=
  ⟨.initial heartBeatRate, fun _ => .calling .run, []⟩

def after (establisher : ι → BalancerEstablisher float) (heartBeatRate : Int)
    (labels : List (Label ι)) : System ι float :=
  Transition.run (step establisher) (start heartBeatRate) labels

theorem after_append (establisher : ι → BalancerEstablisher float) (heartBeatRate : Int)
    (labels more : List (Label ι)) :
    after establisher heartBeatRate (labels ++ more) =
      Transition.run (step establisher) (after establisher heartBeatRate labels) more :=
  Transition.run_append _ _ _

theorem after_concat (establisher : ι → BalancerEstablisher float) (heartBeatRate : Int)
    (labels : List (Label ι)) (label : Label ι) :
    after establisher heartBeatRate (labels ++ [label]) =
      step establisher (after establisher heartBeatRate labels) label := by
  simp [after]

/-- The message which the balancer processes in a step, with its clock reading. -/
def processed (system : System ι float) : Label ι → Option (Message float × Int)
  | .process i now =>
      match system.control i with
      | .waiting _ (.requested message) => some (message, now)
      | _ => none
  | .processLate k now => system.late[k]?.map fun message => (message, now)
  | _ => none

omit [DecidableEq ι] in
/-- A message is processed while its provider waits for it, or after that. -/
theorem origin_of_processed {system : System ι float} {label : Label ι} {message : Message float}
    {now : Int} (taken : processed system label = some (message, now)) :
    (∃ i place, label = .process i now ∧ system.control i = .waiting place (.requested message)) ∨
      message ∈ system.late := by
  cases label with
  | process i clock =>
      simp only [processed] at taken
      split at taken
      · next place sent waiting =>
          obtain ⟨rfl, rfl⟩ : sent = message ∧ clock = now := by simpa using taken
          exact .inl ⟨i, place, rfl, waiting⟩
      · cases taken
  | processLate k clock =>
      obtain ⟨sent, found, same⟩ := Option.map_eq_some_iff.mp taken
      obtain ⟨rfl, rfl⟩ := Prod.mk.inj same
      exact .inr (List.mem_of_getElem? found)
  | call i usage names => cases taken
  | answer i => cases taken
  | lose i arrives => cases taken
  | sweep clock => cases taken
  | restart => cases taken

/-! ### What a step can do -/

/-- The registry changes by processing a message, or else it only loses nodes. -/
theorem balancer_step (establisher : ι → BalancerEstablisher float) (system : System ι float)
    (label : Label ι) :
    (∃ message now, processed system label = some (message, now) ∧
      (step establisher system label).balancer = (system.balancer.receive now message).1) ∨
    (processed system label = none ∧
      (step establisher system label).balancer.servers.Sublist system.balancer.servers) := by
  cases label with
  | call i usage names =>
      refine .inr ⟨rfl, ?_⟩
      simp only [step]
      split <;> exact List.Sublist.refl _
  | process i now =>
      simp only [step, processed]
      split
      · exact .inl ⟨_, now, rfl, rfl⟩
      · exact .inr ⟨rfl, List.Sublist.refl _⟩
  | processLate k now =>
      simp only [step, processed]
      cases system.late[k]? with
      | some message => exact .inl ⟨message, now, rfl, rfl⟩
      | none => exact .inr ⟨rfl, List.Sublist.refl _⟩
  | answer i =>
      refine .inr ⟨rfl, ?_⟩
      simp only [step]
      split <;> exact List.Sublist.refl _
  | lose i arrives =>
      refine .inr ⟨rfl, ?_⟩
      simp only [step]
      split <;> exact List.Sublist.refl _
  | sweep now => exact .inr ⟨rfl, List.filter_sublist⟩
  | restart => exact .inr ⟨rfl, List.nil_sublist _⟩

/-- A request is given up by a loss only. -/
theorem late_of_step {establisher : ι → BalancerEstablisher float} {system : System ι float}
    {label : Label ι} {message : Message float}
    (member : message ∈ (step establisher system label).late) :
    message ∈ system.late ∨ ∃ j place, label = .lose j true ∧
      system.control j = .waiting place (.requested message) := by
  cases label with
  | call j usage names =>
      simp only [step] at member
      split at member <;> exact .inl member
  | process j now =>
      simp only [step] at member
      split at member <;> exact .inl member
  | processLate k now =>
      simp only [step] at member
      split at member
      · exact .inl (List.mem_of_mem_eraseIdx member)
      · exact .inl member
  | answer j =>
      simp only [step] at member
      split at member <;> exact .inl member
  | lose j arrives =>
      simp only [step] at member
      split at member
      · next place sent waiting =>
          cases arrives with
          | false => exact .inl member
          | true =>
              cases List.mem_append.mp member with
              | inl old => exact .inl old
              | inr given =>
                  obtain rfl := List.mem_singleton.mp given
                  exact .inr ⟨j, place, rfl, waiting⟩
      · exact .inl member
      · exact .inl member
  | sweep now => exact .inl member
  | restart => exact .inl member

/-- What a step does to one provider. -/
inductive Moves (establisher : ι → BalancerEstablisher float) (system next : System ι float)
    (i : ι) : Label ι → Prop where
  | stays {label : Label ι} (same : next.control i = system.control i) :
      Moves establisher system next i label
  | calls (usage : Int32) (names : List String) (place : Place)
      (before : system.control i = .calling place)
      (moved : next.control i = .waiting place
        (.requested (place.message { establisher i with usage } names))) :
      Moves establisher system next i (.call i usage names)
  | processes (now : Int) (place : Place) (message : Message float)
      (before : system.control i = .waiting place (.requested message))
      (moved : next.control i =
        .waiting place (.answered (system.balancer.receive now message).2))
      (registry : next.balancer = (system.balancer.receive now message).1) :
      Moves establisher system next i (.process i now)
  | returns (place : Place) (status : Status)
      (before : system.control i = .waiting place (.answered status))
      (moved : next.control i = resume place status) :
      Moves establisher system next i (.answer i)
  | fails (arrives : Bool) (place : Place) (rpc : Rpc float)
      (before : system.control i = .waiting place rpc)
      (moved : next.control i = resume place .UNAVAILABLE) :
      Moves establisher system next i (.lose i arrives)

theorem setControl_same (system : System ι float) (i : ι) (control : Control float) :
    (system.setControl i control).control i = control := by
  simp [System.setControl]

theorem setControl_other (system : System ι float) {i j : ι} (other : j ≠ i)
    (control : Control float) :
    (system.setControl i control).control j = system.control j := by
  simp [System.setControl, other]

theorem moves_step (establisher : ι → BalancerEstablisher float) (system : System ι float)
    (label : Label ι) (j : ι) :
    Moves establisher system (step establisher system label) j label := by
  cases label with
  | call i usage names =>
      cases before : system.control i with
      | calling place =>
          by_cases own : j = i
          · subst own
            exact .calls usage names place before (by simp [step, before, setControl_same])
          · exact .stays (by simp [step, before, setControl_other, own])
      | waiting place rpc => exact .stays (by simp [step, before])
  | process i now =>
      cases before : system.control i with
      | calling place => exact .stays (by simp [step, before])
      | waiting place rpc =>
          cases rpc with
          | requested message =>
              by_cases own : j = i
              · subst own
                exact .processes now place message before
                  (by simp [step, before, setControl_same])
                  (by simp [step, before, System.setControl])
              · exact .stays (by simp [step, before, setControl_other, own])
          | answered status => exact .stays (by simp [step, before])
  | processLate k now =>
      apply Moves.stays
      simp only [step]
      split <;> rfl
  | answer i =>
      cases before : system.control i with
      | calling place => exact .stays (by simp [step, before])
      | waiting place rpc =>
          cases rpc with
          | requested message => exact .stays (by simp [step, before])
          | answered status =>
              by_cases own : j = i
              · subst own
                exact .returns place status before (by simp [step, before, setControl_same])
              · exact .stays (by simp [step, before, setControl_other, own])
  | lose i arrives =>
      cases before : system.control i with
      | calling place => exact .stays (by simp [step, before])
      | waiting place rpc =>
          by_cases own : j = i
          · subst own
            apply Moves.fails arrives place rpc before
            cases rpc <;> simp [step, before, setControl_same]
          · apply Moves.stays
            cases rpc <;> simp [step, before, setControl_other, own]
  | sweep now => exact .stays rfl
  | restart => exact .stays rfl

theorem resume_eq_calling (place : Place) (status : Status) :
    ∃ next, (resume place status : Control float) = .calling next := by
  cases place <;> cases status <;> exact ⟨_, rfl⟩

omit [DecidableEq ι] in
/-- How a provider comes to wait for a call in some state. -/
theorem Moves.of_waiting {establisher : ι → BalancerEstablisher float}
    {system next : System ι float} {i : ι} {label : Label ι}
    (moves : Moves establisher system next i label) {place : Place} {rpc : Rpc float}
    (waiting : next.control i = .waiting place rpc) :
    system.control i = .waiting place rpc ∨
    (∃ usage names, label = .call i usage names ∧ system.control i = .calling place ∧
      rpc = .requested (place.message { establisher i with usage } names)) ∨
    ∃ now message, label = .process i now ∧
      system.control i = .waiting place (.requested message) ∧
      rpc = .answered (system.balancer.receive now message).2 ∧
      next.balancer = (system.balancer.receive now message).1 := by
  cases moves with
  | stays same => exact .inl (same ▸ waiting)
  | calls usage names origin before moved =>
      obtain ⟨rfl, rfl⟩ := Control.waiting.inj (moved.symm.trans waiting)
      exact .inr (.inl ⟨usage, names, rfl, before, rfl⟩)
  | processes now origin message before moved registry =>
      obtain ⟨rfl, rfl⟩ := Control.waiting.inj (moved.symm.trans waiting)
      exact .inr (.inr ⟨now, message, rfl, before, rfl, registry⟩)
  | returns origin status before moved =>
      obtain ⟨other, called⟩ := resume_eq_calling origin status
      cases (moved.trans called).symm.trans waiting
  | fails arrives origin rpc before moved =>
      obtain ⟨other, called⟩ := resume_eq_calling origin .UNAVAILABLE
      cases (moved.trans called).symm.trans waiting

omit [DecidableEq ι] in
/-- How a provider comes to be between two calls. -/
theorem Moves.of_calling {establisher : ι → BalancerEstablisher float}
    {system next : System ι float} {i : ι} {label : Label ι}
    (moves : Moves establisher system next i label) {place : Place}
    (calling : next.control i = .calling place) :
    system.control i = .calling place ∨
    (∃ origin status, label = .answer i ∧
      system.control i = .waiting origin (.answered status) ∧
      resume origin status = (.calling place : Control float)) ∨
    ∃ arrives origin rpc, label = .lose i arrives ∧ system.control i = .waiting origin rpc ∧
      resume origin .UNAVAILABLE = (.calling place : Control float) := by
  cases moves with
  | stays same => exact .inl (same ▸ calling)
  | calls usage names origin before moved =>
      rw [moved] at calling
      cases calling
  | processes now origin message before moved registry =>
      rw [moved] at calling
      cases calling
  | returns origin status before moved =>
      exact .inr (.inl ⟨origin, status, rfl, before, moved.symm.trans calling⟩)
  | fails arrives origin rpc before moved =>
      exact .inr (.inr ⟨arrives, origin, rpc, rfl, before, moved.symm.trans calling⟩)

/-- What a provider waits for is the message of its place. -/
def Sent (establisher : ι → BalancerEstablisher float) (system : System ι float) : Prop :=
  ∀ i place message, system.control i = .waiting place (.requested message) →
    ∃ usage names, message = place.message { establisher i with usage } names

theorem Sent.step {establisher : ι → BalancerEstablisher float} {system : System ι float}
    (sent : Sent establisher system) (label : Label ι) :
    Sent establisher (Session.step establisher system label) := by
  intro i place message waiting
  rcases (moves_step establisher system label i).of_waiting waiting with
    same | ⟨usage, names, _, _, new⟩ | ⟨_, _, _, _, answered, _⟩
  · exact sent i place message same
  · exact ⟨usage, names, Rpc.requested.inj new⟩
  · cases answered

omit [DecidableEq ι] in
theorem Sent.address {establisher : ι → BalancerEstablisher float} {system : System ι float}
    (sent : Sent establisher system) {i : ι} {place : Place} {message : Message float}
    (waiting : system.control i = .waiting place (.requested message)) :
    message.address = (establisher i).srvAddress := by
  obtain ⟨usage, names, same⟩ := sent i place message waiting
  exact (congrArg Message.address same).trans (Place.message_address _ names place)

theorem sent_after (establisher : ι → BalancerEstablisher float) (heartBeatRate : Int)
    (labels : List (Label ι)) : Sent establisher (after establisher heartBeatRate labels) := by
  apply Transition.run_preserves
  · intro i place message waiting
    cases waiting
  · exact fun system label _ sent => sent.step label

end Session

end Cloud3D
