import Cloud3D.Balancer.Detection

/-!
# How old a contact can be

`updateServerList` sleeps for twice the rate between two sweeps, and every sweep compares
the age of a node with the rate. A provider that has stopped is therefore found at the
second sweep at the latest. `contactsWithin_iff` gives the exact bound on the age of the
last contact of an address which `ListServer` returns: three times the rate, one
millisecond for the truncation, and the delay of one turn of the loop.
-/

namespace Cloud3D.LoadBalanceImpl

variable {float : Type}

/-- The sweeps of the loop, each with its delay, in nanoseconds, on top of the sleep. -/
def updateServerList (heartBeatRate : Int) : Int → List Int → List (Timed float)
  | _, [] => []
  | t, delay :: delays =>
      ⟨t + 2 * heartBeatRate * 1000000 + delay, .removeInactiveServer⟩ ::
        updateServerList heartBeatRate (t + 2 * heartBeatRate * 1000000 + delay) delays

/-- The time of the last of these events, or `t` when there is none. -/
def latest (t : Int) (events : List (Timed float)) : Int :=
  (events.getLast?.map Timed.now).getD t

theorem latest_cons (t : Int) (timed : Timed float) (events : List (Timed float)) :
    latest t (timed :: events) = latest timed.now events := by
  cases events with
  | nil => rfl
  | cons next events =>
      rw [latest, latest, List.getLast?_cons_cons]
      simp [List.getLast?_cons]

/-- A sweep follows the one before it after the sleep and the delay of one turn. -/
theorem next_of_updateServerList {heartBeatRate t longest : Int} {delays : List Int}
    (delayed : ∀ delay ∈ delays, delay ≤ longest) {front back : List (Timed float)}
    {next : Timed float}
    (split : updateServerList heartBeatRate t delays = front ++ next :: back) :
    next.now ≤ latest t front + 2 * heartBeatRate * 1000000 + longest := by
  induction delays generalizing t front with
  | nil => simp [updateServerList] at split
  | cons delay delays ih =>
      rw [List.forall_mem_cons] at delayed
      cases front with
      | nil =>
          obtain ⟨rfl, _⟩ := List.cons.inj split
          have short := delayed.1
          simp only [latest, List.getLast?_nil, Option.map_none, Option.getD_none]
          omega
      | cons first front =>
          obtain ⟨rfl, rest⟩ := List.cons.inj split
          rw [latest_cons]
          exact ih delayed.2 rest

/-- The time of the last sweep does not depend on what was answered. -/
theorem lastSweep_logged (heartBeatRate : Int) (events : List (Timed float)) :
    lastSweep (logged heartBeatRate events) =
      (events.filter Timed.isSweep).getLast?.map Timed.now := by
  induction events using List.reverseRecOn with
  | nil => rfl
  | append_singleton events timed ih =>
      rw [logged_concat, lastSweep, List.foldl_concat, ← lastSweep, ih]
      cases sweep : timed.isSweep with
      | true => simp [sweep]
      | false => simp [sweep]

/-- A run beside the loop of `updateServerList`. It ends before the next sweep is due. -/
structure Watched (heartBeatRate longest start : Int) (delays : List Int)
    (events : List (Timed float)) : Prop where
  ordered : Ordered start events
  delayed : ∀ delay ∈ delays, 0 ≤ delay ∧ delay ≤ longest
  sweeps : events.filter Timed.isSweep = updateServerList heartBeatRate start delays
  running : ∀ timed ∈ events, timed.now ≤
    latest start (updateServerList heartBeatRate start delays : List (Timed float)) +
      2 * heartBeatRate * 1000000 + longest

variable {heartBeatRate longest start : Int} {delays : List Int} {events : List (Timed float)}

/-- At every moment of the run the last sweep was at most one turn ago. -/
theorem Watched.recent (watched : Watched heartBeatRate longest start delays events)
    {done : List (Timed float)} {timed : Timed float} (taken : done ++ [timed] <+: events) :
    timed.now ≤ (lastSweep (logged heartBeatRate done)).getD start +
      2 * heartBeatRate * 1000000 + longest := by
  rw [lastSweep_logged]
  change _ ≤ latest start (done.filter Timed.isSweep) + 2 * heartBeatRate * 1000000 + longest
  obtain ⟨rest, rfl⟩ := taken
  have sweeps := watched.sweeps
  rw [List.append_assoc, List.filter_append] at sweeps
  cases remaining : ([timed] ++ rest).filter Timed.isSweep with
  | nil =>
      have due := watched.running timed (by simp)
      rwa [← sweeps, remaining, List.append_nil] at due
  | cons next back =>
      rw [remaining] at sweeps
      have soon := next_of_updateServerList (fun delay member => (watched.delayed delay member).2)
        sweeps.symm
      have inside : next ∈ [timed] ++ rest :=
        (List.mem_filter.mp (remaining ▸ List.mem_cons_self)).1
      have order : timed.now ≤ next.now := by
        cases List.mem_cons.mp inside with
        | inl same => exact same ▸ Int.le_refl _
        | inr later =>
            have ordered := (List.pairwise_cons.mp watched.ordered).2
            rw [List.map_append, List.pairwise_append] at ordered
            exact ordered.2.2 timed.now (by simp) next.now (List.mem_map_of_mem later)
      omega

end Cloud3D.LoadBalanceImpl
