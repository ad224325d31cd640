import Cloud3D.Balancer.Registry
import Cloud3D.Balancer.Selection
import Cloud3D.Balancer.Matching
import Cloud3D.Transition.View

/-!
# Providers do not interfere

The nodes of one address, and the answers to its messages, depend on the messages of
this address and on the sweeps alone. The view of an address commutes with each of
the three operations: appending, refreshing the first node found, and stable erasure.

The selection looks at all nodes, but only at which nodes there are, not at their
order. Two runs which agree for every address are then the same to every client.
-/

namespace Cloud3D.LoadBalanceImpl

variable {float : Type}

/-- The nodes of one address, in order. -/
def view (a : String) (balancer : LoadBalanceImpl float) : LoadBalanceImpl float :=
  { balancer with servers := balancer.servers.filter fun server => server.address = a }

/-- The messages of one address and the sweeps. -/
def relevant (a : String) (timed : Timed float) : Bool := timed.isFrom a || timed.isSweep

theorem refresh_filter_self {request : HeartBeat} {a : String}
    (own : request.serverAddresss = a) (now : Int) (servers : List (ServerNode float)) :
    refresh request now (servers.filter fun server => server.address = a) =
      (refresh request now servers).map (List.filter fun server => server.address = a) := by
  subst a
  induction servers with
  | nil => rfl
  | cons server servers ih =>
      by_cases first : server.address = request.serverAddresss
      · simp [refresh, first, ServerNode.beat]
      · rw [List.filter_cons_of_neg (by simpa using first), ih]
        simp [refresh, first, Option.map_map, Function.comp_def]

theorem filter_refresh_of_ne {request : HeartBeat} {now : Int} {a : String}
    (other : request.serverAddresss ≠ a) {servers next : List (ServerNode float)}
    (found : refresh request now servers = some next) :
    next.filter (fun server => server.address = a) =
      servers.filter (fun server => server.address = a) := by
  obtain ⟨front, server, back, rfl, _, same, rfl⟩ := refresh_eq_some found
  have unseen : server.address ≠ a := same ▸ other
  simp [unseen]

theorem view_message_self (balancer : LoadBalanceImpl float) (now : Int)
    {message : Message float} {a : String} (own : message.address = a) :
    view a (balancer.receive now message).1 = ((view a balancer).receive now message).1 ∧
      (balancer.receive now message).2 = ((view a balancer).receive now message).2 := by
  cases message with
  | establishServer request =>
      have same : request.serverAddress = a := own
      simp [view, newNode, same]
  | sendHeartbeat request =>
      simp only [receive, sendHeartbeat, view]
      rw [refresh_filter_self own now balancer.servers]
      cases refresh request now balancer.servers <;> simp

theorem view_message_of_ne (balancer : LoadBalanceImpl float) (now : Int)
    {message : Message float} {a : String} (other : message.address ≠ a) :
    view a (balancer.receive now message).1 = view a balancer := by
  cases message with
  | establishServer request =>
      have unseen : request.serverAddress ≠ a := other
      simp [view, newNode, unseen]
  | sendHeartbeat request =>
      simp only [receive, sendHeartbeat]
      cases found : refresh request now balancer.servers with
      | none => rfl
      | some next => simp [view, filter_refresh_of_ne other found]

theorem view_removeInactiveServer (a : String) (balancer : LoadBalanceImpl float) (now : Int) :
    view a (balancer.removeInactiveServer now) = (view a balancer).removeInactiveServer now := by
  simp only [view, removeInactiveServer]
  rw [List.filter_comm]
  rfl

/-- A relevant step acts on the view alone. -/
theorem view_step_of_relevant (a : String) (balancer : LoadBalanceImpl float)
    (timed : Timed float) (concerned : relevant a timed = true) :
    view a (balancer.step timed) = (view a balancer).step timed := by
  obtain ⟨now, event⟩ := timed
  cases event with
  | message message =>
      refine (view_message_self balancer now ?_).1
      simpa [relevant, Timed.isFrom, Timed.isSweep] using concerned
  | removeInactiveServer => exact view_removeInactiveServer a balancer now
  | listServer request => simp [relevant, Timed.isFrom, Timed.isSweep] at concerned

/-- Any other step leaves the view unchanged. -/
theorem view_step_of_not_relevant (a : String) (balancer : LoadBalanceImpl float)
    (timed : Timed float) (unconcerned : relevant a timed = false) :
    view a (balancer.step timed) = view a balancer := by
  obtain ⟨now, event⟩ := timed
  cases event with
  | message message =>
      apply view_message_of_ne balancer now
      simpa [relevant, Timed.isFrom, Timed.isSweep] using unconcerned
  | removeInactiveServer => simp [relevant, Timed.isFrom, Timed.isSweep] at unconcerned
  | listServer request => rfl

theorem answer_view (a : String) (balancer : LoadBalanceImpl float) (timed : Timed float)
    (own : timed.isFrom a = true) : balancer.answer timed = (view a balancer).answer timed := by
  obtain ⟨now, event⟩ := timed
  cases event with
  | message message =>
      exact congrArg some (view_message_self balancer now (by simpa [Timed.isFrom] using own)).2
  | removeInactiveServer => simp [Timed.isFrom] at own
  | listServer request => simp [Timed.isFrom] at own

/-- The nodes of an address after a run. -/
theorem view_after (heartBeatRate : Int) (a : String) (events : List (Timed float)) :
    view a (after heartBeatRate events) = after heartBeatRate (events.filter (relevant a)) :=
  Transition.run_view (view_step_of_relevant a) (view_step_of_not_relevant a)
    (initial heartBeatRate) events

/-- The answers to the messages of an address in a run. -/
theorem answers_logged (heartBeatRate : Int) (a : String) (events : List (Timed float)) :
    (logged heartBeatRate events).filter (fun entry => entry.1.isFrom a) =
      (logged heartBeatRate (events.filter (relevant a))).filter
        (fun entry => entry.1.isFrom a) :=
  Transition.log_view (view_step_of_relevant a) (view_step_of_not_relevant a)
    (fun _ own => by simp [relevant, own]) (answer_view a) (initial heartBeatRate) events

theorem mem_after_of_agree {heartBeatRate : Int} {events others : List (Timed float)}
    (agree : ∀ a, events.filter (relevant a) = others.filter (relevant a))
    (server : ServerNode float) :
    server ∈ (after heartBeatRate events).servers ↔
      server ∈ (after heartBeatRate others).servers := by
  have same : view server.address (after heartBeatRate events) =
      view server.address (after heartBeatRate others) := by
    rw [view_after, view_after, agree]
  have shown := congrArg (fun balancer => server ∈ balancer.servers) same
  simpa [view] using shown

/-- Which addresses may be selected is determined by which nodes there are. -/
theorem exists_minUsageServer_congr (unset : Int32) (servers others : List (ServerNode float))
    (same : ∀ server, server ∈ servers ↔ server ∈ others) (a : String) :
    (∃ draw, minUsageServer unset draw servers = some a) ↔
      ∃ draw, minUsageServer unset draw others = some a := by
  by_cases empty : servers = []
  · have none : others = [] := by
      subst empty
      exact List.eq_nil_iff_forall_not_mem.mpr fun server member =>
        List.not_mem_nil ((same server).mpr member)
    rw [empty, none]
  · have candidates : others ≠ [] := by
      intro none
      exact empty (List.eq_nil_iff_forall_not_mem.mpr fun server member =>
        List.not_mem_nil (none ▸ (same server).mp member))
    simp only [exists_minUsageServer_iff unset empty,
      exists_minUsageServer_iff unset candidates, LeastLoaded, same]

variable [LinearOrder float]

theorem exists_listServer_congr {balancer other : LoadBalanceImpl float}
    (same : ∀ server, server ∈ balancer.servers ↔ server ∈ other.servers) (unset : Int32)
    (request : ServerRequest float) (result : Status × ServerReply) :
    (∃ draw, balancer.listServer unset draw request = some result) ↔
      ∃ draw, other.listServer unset draw request = some result := by
  have selected := exists_minUsageServer_congr unset
    (balancer.possibleServers (LoadBalanceImpl.requested request))
    (other.possibleServers (LoadBalanceImpl.requested request))
    (fun server => by simp only [mem_possibleServers_iff, same])
  simp only [listServer, findBestServer, Option.map_eq_some_iff]
  constructor
  · rintro ⟨draw, a, found, rfl⟩
    obtain ⟨redraw, refound⟩ := (selected a).mp ⟨draw, found⟩
    exact ⟨redraw, a, refound, rfl⟩
  · rintro ⟨draw, a, found, rfl⟩
    obtain ⟨redraw, refound⟩ := (selected a).mpr ⟨draw, found⟩
    exact ⟨redraw, a, refound, rfl⟩

/-- Noninterference. What concerns an address is the outcome of the run of its own
messages and the sweeps, and runs which agree for every address answer every request
from the same set of providers. -/
theorem providers_do_not_interfere (heartBeatRate : Int) (events : List (Timed float)) :
    (∀ a,
      (after heartBeatRate events).servers.filter (fun server => server.address = a) =
          (after heartBeatRate (events.filter (relevant a))).servers ∧
        (logged heartBeatRate events).filter (fun entry => entry.1.isFrom a) =
          (logged heartBeatRate (events.filter (relevant a))).filter
            (fun entry => entry.1.isFrom a)) ∧
      ∀ others, (∀ a, events.filter (relevant a) = others.filter (relevant a)) →
        ∀ unset (request : ServerRequest float) result,
          (∃ draw, (after heartBeatRate events).listServer unset draw request = some result) ↔
            ∃ draw, (after heartBeatRate others).listServer unset draw request = some result := by
  refine ⟨fun a => ⟨?_, answers_logged heartBeatRate a events⟩, ?_⟩
  · exact congrArg LoadBalanceImpl.servers (view_after heartBeatRate a events)
  · intro others agree unset request result
    exact exists_listServer_congr (mem_after_of_agree agree) unset request result

/-- Two registrations in either order are the same to a request. -/
theorem providers_do_not_interfere_swapped :
    let first : Timed Int :=
      ⟨0, .message (.establishServer ⟨1, "provider:1", ["MeshSmooth"]⟩)⟩
    let second : Timed Int :=
      ⟨1, .message (.establishServer ⟨1, "provider:2", ["MeshSmooth"]⟩)⟩
    ∀ result,
      (∃ draw, (after 1000 [first, second]).listServer 0 draw ⟨1, ["MeshSmooth"]⟩ = some result) ↔
        ∃ draw, (after 1000 [second, first]).listServer 0 draw ⟨1, ["MeshSmooth"]⟩ =
          some result := by
  intro first second result
  refine (providers_do_not_interfere 1000 [first, second]).2 [second, first] ?_ 0 _ result
  intro a
  by_cases own : "provider:1" = a
  · subst own
    rfl
  · by_cases other : "provider:2" = a
    · subst other
      rfl
    · simp [first, second, relevant, Timed.isFrom, Timed.isSweep, Message.address, own, other]

end Cloud3D.LoadBalanceImpl
