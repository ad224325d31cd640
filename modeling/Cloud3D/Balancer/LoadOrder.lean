import Cloud3D.Balancer.Heard
import Cloud3D.Numeric.Signed

/-!
# The order of the loads

A heartbeat carries the usage as an unsigned number, a node keeps it as a signed one, and
`minUsageServer` compares the signed ones. `lists_least_reported_iff` says for which
usages the provider returned is one which reported the least.
-/

namespace Cloud3D.LoadBalanceImpl

variable {float : Type}

theorem first_of_nodup {servers : List (ServerNode float)}
    (distinct : (servers.map ServerNode.address).Nodup) {server : ServerNode float}
    (member : server ∈ servers) : first server.address servers = some server := by
  induction servers with
  | nil => exact absurd member List.not_mem_nil
  | cons earliest servers ih =>
      rw [List.map_cons, List.nodup_cons] at distinct
      rw [first_cons]
      rcases List.mem_cons.mp member with rfl | later
      · exact if_pos rfl
      · have other : earliest.address ≠ server.address := fun same =>
          distinct.1 (List.mem_map.mpr ⟨server, later, same.symm⟩)
        rw [if_neg other]
        exact ih distinct.2 later

/-- The usage which the provider of a node has reported, if it has. -/
def reportedUsage (heartBeatRate : Int) (events : List (Timed float))
    (server : ServerNode float) : UInt32 :=
  (reported heartBeatRate events server.address).getD 0

/-- A node which is alone at its address and has been heard is compared by the reported
usage, as a signed number. -/
theorem load_of_reported {heartBeatRate : Int} {events : List (Timed float)}
    (distinct : ((after heartBeatRate events).servers.map ServerNode.address).Nodup)
    {server : ServerNode float} (member : server ∈ (after heartBeatRate events).servers)
    (heard : (reported heartBeatRate events server.address).isSome) (unset : Int32) :
    server.load unset = (reportedUsage heartBeatRate events server).toInt32 := by
  obtain ⟨usage, told⟩ := Option.isSome_iff_exists.mp heard
  have known := (heard_after heartBeatRate events).known server.address
  rw [first_of_nodup distinct member, Option.bind_some, told, Option.map_some] at known
  rw [ServerNode.load, reportedUsage, known, told]
  rfl

/-- Among such nodes the least loaded are those of the least signed usage. -/
theorem leastLoaded_iff {heartBeatRate : Int} {events : List (Timed float)}
    (distinct : ((after heartBeatRate events).servers.map ServerNode.address).Nodup)
    {servers : List (ServerNode float)}
    (members : ∀ server ∈ servers, server ∈ (after heartBeatRate events).servers)
    (heard : ∀ server ∈ servers, (reported heartBeatRate events server.address).isSome)
    (unset : Int32) {server : ServerNode float} (candidate : server ∈ servers) :
    LeastLoaded unset servers server ↔
      ∀ other ∈ servers, (reportedUsage heartBeatRate events server).toInt32 ≤
        (reportedUsage heartBeatRate events other).toInt32 := by
  have load : ∀ other ∈ servers,
      other.load unset = (reportedUsage heartBeatRate events other).toInt32 :=
    fun other inside => load_of_reported distinct (members other inside) (heard other inside) unset
  rw [LeastLoaded, and_iff_right candidate, load server candidate]
  exact forall₂_congr fun other inside => by rw [load other inside]

variable [LinearOrder float]

/-- Where addresses are distinct and the candidates have been heard, every provider that
can be returned has reported the least usage of all candidates if and only if the usages
are all below `2 ^ 31` or all from there on. -/
theorem lists_least_reported_iff (heartBeatRate : Int) (events : List (Timed float))
    (request : ServerRequest float)
    (distinct : ((after heartBeatRate events).servers.map ServerNode.address).Nodup)
    (heard : ∀ server ∈ (after heartBeatRate events).possibleServers (requested request),
      (reported heartBeatRate events server.address).isSome)
    (nonempty : (after heartBeatRate events).possibleServers (requested request) ≠ []) :
    let balancer := after heartBeatRate events
    let candidates := balancer.possibleServers (requested request)
    let usage := reportedUsage heartBeatRate events
    (∀ unset draw, ∃ server ∈ candidates,
      balancer.listServer unset draw request = some (.OK, ⟨server.address⟩) ∧
        ∀ other ∈ candidates, usage server ≤ usage other) ↔
    (∀ server ∈ candidates, (usage server).toNat < 2 ^ 31) ∨
      (∀ server ∈ candidates, 2 ^ 31 ≤ (usage server).toNat) := by
  intro balancer candidates usage
  have minimal_iff : ∀ server ∈ candidates, ∀ unset, LeastLoaded unset candidates server ↔
      ∀ other ∈ candidates, (usage server).toInt32 ≤ (usage other).toInt32 := by
    intro server candidate unset
    apply leastLoaded_iff distinct _ heard unset candidate
    exact fun other inside => ((mem_possibleServers_iff balancer _ other).mp inside).1
  rw [← Signed.least_iff usage nonempty]
  constructor
  · intro right server candidate minimal other member
    -- some draw returns this node, or one of the same address
    obtain ⟨draw, result⟩ :=
      exists_draw_minUsageServer ((minimal_iff server candidate 0).mpr minimal)
    obtain ⟨chosen, _, answer, least⟩ := right 0 draw
    have same : server.address = chosen.address := Option.some.inj
      (result.symm.trans ((listServer_eq_some_iff balancer 0 draw request _).mp answer))
    have usage_same : usage server = usage chosen := by
      simp only [usage, reportedUsage, same]
    rw [usage_same]
    exact least other member
  · intro right unset draw
    obtain ⟨front, rest, split⟩ := List.exists_cons_of_ne_nil nonempty
    obtain ⟨server, minimal, result⟩ := minUsageServer_cons unset draw front rest
    rw [← split] at minimal result
    refine ⟨server, minimal.1, ?_, ?_⟩
    · exact (listServer_eq_some_iff balancer unset draw request _).mpr result
    · exact right server minimal.1 ((minimal_iff server minimal.1 unset).mp minimal)

/-- Two providers report a usage. -/
def reporting (usage usage' : UInt32) : List (Timed Int) :=
  [⟨0, .message (.establishServer ⟨1, "provider:1", ["MeshSmooth"]⟩)⟩,
    ⟨0, .message (.establishServer ⟨1, "provider:2", ["MeshSmooth"]⟩)⟩,
    ⟨1000000, .message (.sendHeartbeat ⟨true, usage, "provider:1"⟩)⟩,
    ⟨1000000, .message (.sendHeartbeat ⟨true, usage', "provider:2"⟩)⟩]

theorem lists_least_reported_small :
    ∃ draw, ∃ server ∈ (after 1000 (reporting 10 20)).servers,
      (after 1000 (reporting 10 20)).listServer 0 draw ⟨1, ["MeshSmooth"]⟩ =
        some (.OK, ⟨server.address⟩) ∧
        ∀ other ∈ (after 1000 (reporting 10 20)).servers,
          reportedUsage 1000 (reporting 10 20) server ≤
            reportedUsage 1000 (reporting 10 20) other :=
  ⟨⟨fun _ => 0, by simp⟩,
    (lists_least_reported_iff 1000 (reporting 10 20) ⟨1, ["MeshSmooth"]⟩ (by decide) (by decide)
      (by decide)).mpr (.inl (by decide)) 0 _⟩

/-- Whatever is drawn, the provider with a usage of three billion is preferred to the one
with a usage of ten. -/
theorem heaviest_is_listed :
    (∀ unset draw, (after 1000 (reporting 10 3000000000)).listServer unset draw
      ⟨1, ["MeshSmooth"]⟩ = some (.OK, ⟨"provider:2"⟩)) ∧
    reported 1000 (reporting 10 3000000000) "provider:1" = some 10 ∧
    reported 1000 (reporting 10 3000000000) "provider:2" = some 3000000000 :=
  ⟨fun _ _ => rfl, by decide, by decide⟩

end Cloud3D.LoadBalanceImpl
