import Cloud3D.Balancer.Selection
import Cloud3D.Balancer.Matching
import Cloud3D.Lease.Basic

/-!
# The registry as a table of leases

The purpose of heartbeats and sweeps, stated without nodes: a provider holds a lease,
every accepted message of it renews the lease, and a sweep ends the leases whose last
renewal is more than the rate ago. `represents_after` proves that the registry refines
this table over every run, although several nodes may share one address and a heartbeat
refreshes only the first of them: the newest node of an address carries the time of the
latest accepted message, as long as the address has a node at all.
-/

namespace Cloud3D

variable {float : Type}

/-- Truncation rounds every duration below a full millisecond down. -/
theorem milliseconds_le_iff {limit : Int} (nonneg : 0 ≤ limit) (duration : Int) :
    milliseconds duration ≤ limit ↔ duration < (limit + 1) * 1000000 := by
  simp only [milliseconds]
  rcases Int.le_total 0 duration with forward | backward
  · rw [Int.tdiv_eq_ediv_of_nonneg forward]
    omega
  · have truncated : duration.tdiv 1000000 = -(-duration / 1000000) := by
      rw [← Int.tdiv_eq_ediv_of_nonneg (by omega), Int.neg_tdiv, Int.neg_neg]
    omega

namespace LoadBalanceImpl

/-- Time of the latest message of an address which was answered `OK`. -/
def lastAccepted (a : String) (entries : List (Timed float × Option Status)) : Option Int :=
  entries.foldl (fun latest entry =>
    if entry.1.isFrom a ∧ entry.2 = some .OK then some entry.1.now else latest) none

/-- Time of the latest sweep. -/
def lastSweep (entries : List (Timed float × Option Status)) : Option Int :=
  entries.foldl (fun latest entry => if entry.1.isSweep then some entry.1.now else latest) none

/-- The renewals and sweeps of a run. -/
def history (entries : List (Timed float × Option Status)) : Lease.History String Int where
  last := fun a => lastAccepted a entries
  swept := lastSweep entries

/-- A lease renewed at `t` has run out at `u`. -/
def Expired (heartBeatRate : Int) (t u : Int) : Prop := heartBeatRate < milliseconds (u - t)

theorem expired_iff {heartBeatRate : Int} (nonneg : 0 ≤ heartBeatRate) (t u : Int) :
    Expired heartBeatRate t u ↔ (heartBeatRate + 1) * 1000000 ≤ u - t := by
  have bound := milliseconds_le_iff nonneg (u - t)
  simp only [Expired]
  omega

theorem expiry {heartBeatRate : Int} (nonneg : 0 ≤ heartBeatRate) :
    Lease.Expiry (Expired heartBeatRate) where
  fresh t u order := by
    rw [expired_iff nonneg]
    omega
  older t t' u order := by
    rw [expired_iff nonneg, expired_iff nonneg]
    omega
  later t u u' order := by
    rw [expired_iff nonneg, expired_iff nonneg]
    omega

/-! ### The history of a longer run -/

theorem history_message (entries : List (Timed float × Option Status)) (now : Int)
    (message : Message float) (status : Status) :
    history (entries ++ [(⟨now, .message message⟩, some status)]) =
      if status = .OK then (history entries).renew message.address now else history entries := by
  by_cases accepted : status = .OK
  · rw [if_pos accepted]
    refine Lease.History.ext (funext fun a => ?_) ?_
    · by_cases same : message.address = a
      · simp [history, lastAccepted, Timed.isFrom, accepted, same]
      · simp [history, lastAccepted, Timed.isFrom, Lease.History.renew, same, Ne.symm same]
    · simp [history, lastSweep, Timed.isSweep]
  · simp [history, lastAccepted, lastSweep, Timed.isSweep, accepted]

theorem history_sweep (entries : List (Timed float × Option Status)) (now : Int)
    (status : Option Status) :
    history (entries ++ [(⟨now, .removeInactiveServer⟩, status)]) =
      (history entries).sweep now := by
  simp [history, lastAccepted, lastSweep, Timed.isFrom, Timed.isSweep, Lease.History.sweep]

theorem history_listServer (entries : List (Timed float × Option Status)) (now : Int)
    (request : ServerRequest float) (status : Option Status) :
    history (entries ++ [(⟨now, .listServer request⟩, status)]) = history entries := by
  simp [history, lastAccepted, lastSweep, Timed.isFrom, Timed.isSweep]

/-- The times of a history are clock readings of the run. -/
theorem mem_of_lastAccepted {a : String} {entries : List (Timed float × Option Status)} {t : Int}
    (last : lastAccepted a entries = some t) :
    ∃ entry ∈ entries, entry.1.isFrom a = true ∧ entry.2 = some .OK ∧ entry.1.now = t := by
  induction entries using List.reverseRecOn with
  | nil => simp [lastAccepted] at last
  | append_singleton entries entry ih =>
      rw [lastAccepted, List.foldl_concat] at last
      by_cases here : entry.1.isFrom a = true ∧ entry.2 = some .OK
      · rw [if_pos here, Option.some.injEq] at last
        exact ⟨entry, by simp, here.1, here.2, last⟩
      · rw [if_neg here] at last
        obtain ⟨earlier, member, found⟩ := ih last
        exact ⟨earlier, List.mem_append_left _ member, found⟩

theorem mem_of_lastSweep {entries : List (Timed float × Option Status)} {t : Int}
    (last : lastSweep entries = some t) :
    ∃ entry ∈ entries, entry.1.isSweep = true ∧ entry.1.now = t := by
  induction entries using List.reverseRecOn with
  | nil => simp [lastSweep] at last
  | append_singleton entries entry ih =>
      rw [lastSweep, List.foldl_concat] at last
      by_cases here : entry.1.isSweep = true
      · rw [if_pos here, Option.some.injEq] at last
        exact ⟨entry, by simp, here, last⟩
      · rw [if_neg here] at last
        obtain ⟨earlier, member, found⟩ := ih last
        exact ⟨earlier, List.mem_append_left _ member, found⟩

/-- The clock never runs backwards, from the start of the run on. -/
def Ordered (start : Int) (events : List (Timed float)) : Prop :=
  (start :: events.map Timed.now).Pairwise (· ≤ ·)

theorem Ordered.of_prefix {start : Int} {done events : List (Timed float)}
    (ordered : Ordered start events) (taken : done <+: events) : Ordered start done := by
  obtain ⟨rest, rfl⟩ := taken
  exact ordered.sublist (by simp)

theorem Ordered.le_last {start : Int} {done : List (Timed float)} {timed : Timed float}
    (ordered : Ordered start (done ++ [timed])) :
    start ≤ timed.now ∧ ∀ earlier ∈ done, start ≤ earlier.now ∧ earlier.now ≤ timed.now := by
  simp only [Ordered, List.map_append, List.map_cons, List.map_nil, List.pairwise_cons,
    List.pairwise_append, List.mem_append, List.mem_map, List.mem_singleton] at ordered
  refine ⟨ordered.1 _ (.inr rfl), fun earlier member => ⟨?_, ?_⟩⟩
  · exact ordered.1 _ (.inl ⟨earlier, member, rfl⟩)
  · exact ordered.2.2.2 _ ⟨earlier, member, rfl⟩ _ rfl

theorem history_until (heartBeatRate : Int) {start : Int} {done : List (Timed float)}
    {timed : Timed float} (ordered : Ordered start (done ++ [timed])) :
    (history (logged heartBeatRate done)).Until timed.now := by
  have known : ∀ entry ∈ logged heartBeatRate done, entry.1 ∈ done := by
    intro entry member
    have mapped := List.mem_map_of_mem (f := Prod.fst) member
    rwa [logged, Transition.log_map_fst] at mapped
  constructor
  · intro a t last
    obtain ⟨entry, member, _, _, rfl⟩ := mem_of_lastAccepted last
    exact (ordered.le_last.2 _ (known entry member)).2
  · intro t last
    obtain ⟨entry, member, _, rfl⟩ := mem_of_lastSweep last
    exact (ordered.le_last.2 _ (known entry member)).2

/-! ### Refinement -/

/-- The registry holds exactly the leases of a history, and the newest node of an
address carries the time of its latest renewal. -/
structure Represents (balancer : LoadBalanceImpl float) (past : Lease.History String Int) :
    Prop where
  live : ∀ server ∈ balancer.servers,
    past.Live (Expired balancer.heartBeatRate) server.address
  bounded : ∀ server ∈ balancer.servers, ∀ t, past.last server.address = some t →
    server.lastBeat ≤ t
  newest : ∀ a t, past.Live (Expired balancer.heartBeatRate) a → past.last a = some t →
    ∃ server ∈ balancer.servers, server.address = a ∧ server.lastBeat = t

theorem Represents.registered_iff {balancer : LoadBalanceImpl float}
    {past : Lease.History String Int} (represents : Represents balancer past) (a : String) :
    balancer.Registered a ↔ past.Live (Expired balancer.heartBeatRate) a := by
  constructor
  · rintro ⟨server, member, rfl⟩
    exact represents.live server member
  · rintro ⟨t, last, holds⟩
    obtain ⟨server, member, address, _⟩ := represents.newest a t ⟨t, last, holds⟩ last
    exact ⟨server, member, address⟩

theorem represents_initial (heartBeatRate : Int) :
    Represents (initial heartBeatRate : LoadBalanceImpl float) Lease.History.initial where
  live _ member := absurd member List.not_mem_nil
  bounded _ member := absurd member List.not_mem_nil
  newest a t _ last := by simp [Lease.History.initial] at last

section Step

variable {balancer next : LoadBalanceImpl float} {past : Lease.History String Int} {now : Int}

/-- An accepted message renews one lease, whether it appends a node or refreshes one:
some node of the address carries the present time, and nothing else has changed. -/
theorem Represents.renew (represents : Represents balancer past)
    (nonneg : 0 ≤ balancer.heartBeatRate) (bound : past.Until now) (a : String)
    (rate : next.heartBeatRate = balancer.heartBeatRate)
    (origin : ∀ server ∈ next.servers,
      server.address = a ∧ server.lastBeat = now ∨ server ∈ balancer.servers)
    (fresh : ∃ server ∈ next.servers, server.address = a ∧ server.lastBeat = now)
    (kept : ∀ server ∈ balancer.servers, server.address ≠ a → server ∈ next.servers) :
    Represents next (past.renew a now) := by
  have live_iff := Lease.History.live_renew_iff (expiry nonneg) bound a
  constructor
  · intro server member
    rw [rate, live_iff]
    rcases origin server member with ⟨address, _⟩ | old
    · exact .inl address
    · exact .inr (represents.live server old)
  · intro server member t last
    rcases origin server member with ⟨address, lastBeat⟩ | old
    · rw [address, Lease.History.renew_last_self, Option.some.injEq] at last
      exact (lastBeat.trans last).le
    · obtain ⟨earlier, recorded, _⟩ := represents.live server old
      have older := represents.bounded server old earlier recorded
      by_cases address : server.address = a
      · rw [address, Lease.History.renew_last_self, Option.some.injEq] at last
        exact last ▸ older.trans (bound.last _ _ recorded)
      · rw [Lease.History.renew_last_of_ne past now address, recorded, Option.some.injEq] at last
        exact last ▸ older
  · intro b t live last
    rw [rate, live_iff] at live
    by_cases same : b = a
    · subst b
      rw [Lease.History.renew_last_self, Option.some.injEq] at last
      exact last ▸ fresh
    · rw [Lease.History.renew_last_of_ne past now same] at last
      obtain ⟨server, member, address, lastBeat⟩ :=
        represents.newest b t (live.resolve_left same) last
      exact ⟨server, kept server member (address ▸ same), address, lastBeat⟩

theorem Represents.message (represents : Represents balancer past)
    (nonneg : 0 ≤ balancer.heartBeatRate) (bound : past.Until now) (message : Message float) :
    Represents (balancer.receive now message).1
      (if (balancer.receive now message).2 = .OK then past.renew message.address now
        else past) := by
  by_cases accepted : (balancer.receive now message).2 = .OK
  · rw [if_pos accepted]
    apply represents.renew nonneg bound message.address
    · exact balancer.receive_heartBeatRate now message
    · exact fun server member => mem_of_receive member
    · exact contacted_of_receive_OK accepted
    · exact fun server member other => mem_receive_of_ne member other now
  · rw [if_neg accepted, receive_of_not_OK accepted]
    exact represents

/-- The sweep removes every node of an expired address and keeps the newest node of
any other: all nodes are judged by the same clock reading. -/
theorem Represents.sweep (represents : Represents balancer past)
    (nonneg : 0 ≤ balancer.heartBeatRate) (bound : past.Until now) :
    Represents (balancer.removeInactiveServer now) (past.sweep now) := by
  constructor
  · intro server member
    obtain ⟨old, active⟩ := (mem_removeInactiveServer balancer now server).mp member
    obtain ⟨t, recorded, _⟩ := represents.live server old
    refine (Lease.History.live_sweep_iff past now server.address).mpr ⟨t, recorded, fun ended => ?_⟩
    have older := (expiry nonneg).older _ t now (represents.bounded server old t recorded) ended
    exact absurd active (not_le.mpr older)
  · intro server member t last
    exact represents.bounded server
      ((mem_removeInactiveServer balancer now server).mp member).1 t last
  · intro a t live last
    obtain ⟨t', recorded, holds⟩ := (Lease.History.live_sweep_iff past now a).mp live
    obtain rfl : t = t' := Option.some.inj (last.symm.trans recorded)
    obtain ⟨server, member, address, rfl⟩ := represents.newest a t
      (Lease.History.live_of_live_sweep (expiry nonneg) bound live) last
    refine ⟨server, (mem_removeInactiveServer balancer now server).mpr ⟨member, ?_⟩, address, rfl⟩
    exact not_lt.mp holds

end Step

/-- The registry refines the table of leases over every run. -/
theorem represents_after {heartBeatRate start : Int} (nonneg : 0 ≤ heartBeatRate)
    {events : List (Timed float)} (ordered : Ordered start events) :
    Represents (after heartBeatRate events) (history (logged heartBeatRate events)) := by
  refine Transition.run_induction (P := fun done (balancer : LoadBalanceImpl float) =>
    Represents balancer (history (logged heartBeatRate done))) (represents_initial _) ?_
  intro done timed taken represents
  have bound := history_until heartBeatRate (ordered.of_prefix taken)
  change Represents ((after heartBeatRate done).step timed) _
  change Represents (after heartBeatRate done) _ at represents
  have rate : 0 ≤ (after heartBeatRate done).heartBeatRate := by simpa using nonneg
  rw [logged_concat]
  obtain ⟨now, event⟩ := timed
  cases event with
  | message message =>
      rw [answer, history_message]
      exact represents.message rate bound message
  | removeInactiveServer =>
      rw [history_sweep]
      exact represents.sweep rate bound
  | listServer request =>
      rw [history_listServer]
      exact represents

/-- A node is in the registry exactly while the lease of its address holds. -/
theorem registered_after_iff {heartBeatRate start : Int} (nonneg : 0 ≤ heartBeatRate)
    {events : List (Timed float)} (ordered : Ordered start events) (a : String) :
    (after heartBeatRate events).Registered a ↔
      (history (logged heartBeatRate events)).Live (Expired heartBeatRate) a := by
  simpa using (represents_after nonneg ordered).registered_iff a

/-- The last contact of a registered address is bounded by the last sweep, or by the
start of the run when there was none. -/
theorem contact_of_registered {heartBeatRate start now : Int} (nonneg : 0 ≤ heartBeatRate)
    {done : List (Timed float)} {timed : Timed float} (at_now : timed.now = now)
    (ordered : Ordered start (done ++ [timed])) {a : String}
    (registered : (after heartBeatRate done).Registered a) :
    ∃ t, lastAccepted a (logged heartBeatRate done) = some t ∧ t ≤ now ∧
      now - t < now - (lastSweep (logged heartBeatRate done)).getD start +
        (heartBeatRate + 1) * 1000000 := by
  have earlier := ordered.of_prefix (List.prefix_append done [timed])
  obtain ⟨t, last, holds⟩ := (registered_after_iff nonneg earlier a).mp registered
  have bound := history_until heartBeatRate ordered
  refine ⟨t, last, at_now ▸ bound.last a t last, ?_⟩
  cases swept : lastSweep (logged heartBeatRate done) with
  | none =>
      obtain ⟨entry, member, _, _, rfl⟩ := mem_of_lastAccepted last
      have known : entry.1 ∈ done := by
        have mapped := List.mem_map_of_mem (f := Prod.fst) member
        rwa [logged, Transition.log_map_fst] at mapped
      have after_start := (ordered.le_last.2 entry.1 known).1
      simp only [Option.getD_none]
      omega
  | some u =>
      have recent := holds u swept
      rw [expired_iff nonneg] at recent
      simp only [Option.getD_some]
      omega

/-- Failure detection is exact at every sweep, and between sweeps the contact of every
address which `ListServer` returns is at most the rate older than the last sweep. -/
theorem detection_exact [LinearOrder float] {heartBeatRate start : Int}
    (nonneg : 0 ≤ heartBeatRate) {events : List (Timed float)}
    (ordered : Ordered start events) :
    (∀ done now, done ++ [⟨now, .removeInactiveServer⟩] <+: events → ∀ a,
      (after heartBeatRate (done ++ [⟨now, .removeInactiveServer⟩])).Registered a ↔
        ∃ t, lastAccepted a (logged heartBeatRate done) = some t ∧
          milliseconds (now - t) ≤ heartBeatRate) ∧
    (∀ done now request, done ++ [⟨now, .listServer request⟩] <+: events →
      ∀ unset draw reply,
        (after heartBeatRate done).listServer unset draw request = some (.OK, reply) →
        reply.serverAddresss ≠ "" →
        ∃ t, lastAccepted reply.serverAddresss (logged heartBeatRate done) = some t ∧ t ≤ now ∧
          now - t < now - (lastSweep (logged heartBeatRate done)).getD start +
            (heartBeatRate + 1) * 1000000) := by
  constructor
  · intro done now taken a
    rw [registered_after_iff nonneg (ordered.of_prefix taken), logged_concat, history_sweep,
      Lease.History.live_sweep_iff]
    simp only [Expired, not_lt]
    rfl
  · intro done now request taken unset draw reply returned nonempty
    obtain ⟨server, candidate, address⟩ := mem_of_listServer returned nonempty
    exact contact_of_registered nonneg rfl (ordered.of_prefix taken)
      ⟨server, ((mem_possibleServers_iff _ _ server).mp candidate).1, address⟩

/-- A provider whose heartbeat reaches the first of its two nodes, a sweep which finds
it in time, and a request. -/
def attended : List (Timed Int) :=
  [⟨0, .message (.establishServer ⟨1, "provider:1", ["MeshSmooth"]⟩)⟩,
    ⟨200000000, .message (.establishServer ⟨1, "provider:1", ["MeshSmooth"]⟩)⟩,
    ⟨1000000000, .message (.sendHeartbeat ⟨true, 7, "provider:1"⟩)⟩,
    ⟨2000999999, .removeInactiveServer⟩,
    ⟨2500000000, .listServer ⟨1, ["MeshSmooth"]⟩⟩]

theorem detection_exact_attended :
    Ordered 0 attended ∧
      (after 1000 (attended.take 4)).Registered "provider:1" ∧
      ∃ t, lastAccepted "provider:1" (logged 1000 (attended.take 4)) = some t ∧
        t ≤ 2500000000 ∧ 2500000000 - t < 2500000000 - 2000999999 + (1000 + 1) * 1000000 := by
  have ordered : Ordered 0 attended := by
    unfold Ordered
    decide
  obtain ⟨sweeps, requests⟩ := detection_exact (by decide : (0 : Int) ≤ 1000) ordered
  refine ⟨ordered, ?_, ?_⟩
  · exact (sweeps (attended.take 3) 2000999999 (by decide) "provider:1").mpr
      ⟨1000000000, by decide, by decide⟩
  · exact requests (attended.take 4) 2500000000 ⟨1, ["MeshSmooth"]⟩ (by decide) 0
      ⟨fun _ => 0, by simp⟩ ⟨"provider:1"⟩ (by decide) (by decide)

end LoadBalanceImpl

end Cloud3D
