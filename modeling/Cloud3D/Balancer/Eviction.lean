import Cloud3D.Balancer.Detection

/-!
# Eviction of a provider that keeps sending

`sendHeartBeat` sleeps for the rate and then spends some time on the usage function
and the call, so consecutive messages of a healthy provider are the rate and a delay
apart. The sweep compares the age of a node with the same rate. `attended_iff` states,
for one run, which sweeps are harmless; `never_evicted_iff` says which delays make
every schedule of sweeps harmless: those which stay below one millisecond.
-/

namespace Cloud3D.LoadBalanceImpl

variable {float : Type}

/-- Time of the latest message which an address sent, answered or not. -/
def lastMessage (a : String) (events : List (Timed float)) : Option Int :=
  ((events.filter (Timed.isFrom a)).getLast?).map Timed.now

/-- An address which has registered has a node. -/
def Attended (a : String) (events : List (Timed float)) (balancer : LoadBalanceImpl float) :
    Prop :=
  (∃ timed ∈ events, timed.isFrom a = true) → balancer.Registered a

/-- The first message of an address is a registration. -/
def RegistersFirst (a : String) (events : List (Timed float)) : Prop :=
  ∀ timed, (events.filter (Timed.isFrom a)).head? = some timed →
    ∃ request, timed.event = .message (.establishServer request)

theorem lastMessage_concat (a : String) (events : List (Timed float)) (timed : Timed float) :
    lastMessage a (events ++ [timed]) =
      if timed.isFrom a then some timed.now else lastMessage a events := by
  by_cases own : timed.isFrom a = true
  · simp [lastMessage, own]
  · simp [lastMessage, own]

theorem exists_isFrom_iff (a : String) (events : List (Timed float)) :
    (∃ timed ∈ events, timed.isFrom a = true) ↔ ∃ t, lastMessage a events = some t := by
  have nonempty : events.filter (Timed.isFrom a) ≠ [] ↔
      ∃ timed ∈ events, timed.isFrom a = true := by
    simp [List.filter_eq_nil_iff]
  rw [← nonempty, ← Option.isSome_iff_exists]
  simp [lastMessage]

theorem RegistersFirst.of_prefix {a : String} {done events : List (Timed float)}
    (first : RegistersFirst a events) (taken : done <+: events) : RegistersFirst a done := by
  obtain ⟨rest, rfl⟩ := taken
  intro timed found
  exact first timed (by simp [List.head?_append, found])

/-- A message of an attended address is accepted: a registration always, a heartbeat
because a node with the address is there to be refreshed. -/
theorem answer_of_attended {heartBeatRate : Int} {a : String} {events : List (Timed float)}
    {timed : Timed float} (attended : Attended a events (after heartBeatRate events))
    (first : RegistersFirst a (events ++ [timed])) (own : timed.isFrom a = true) :
    (after heartBeatRate events).answer timed = some .OK := by
  obtain ⟨now, event⟩ := timed
  cases event with
  | message message =>
      cases message with
      | establishServer request => rfl
      | sendHeartbeat request =>
          have same : request.serverAddresss = a := of_decide_eq_true own
          have known : ∃ timed ∈ events, timed.isFrom a = true := by
            by_contra none
            have alone : events.filter (Timed.isFrom a) = [] := by
              simpa [List.filter_eq_nil_iff] using none
            obtain ⟨registration, announced⟩ := first
              ⟨now, .message (.sendHeartbeat request)⟩ (by simp [alone, own])
            cases announced
          rcases (after heartBeatRate events).receive_sendHeartbeat now request with
            ⟨absent, _⟩ | ⟨_, _, _, _, _, _, refreshed⟩
          · exact absurd (same ▸ attended known) absent
          · simp [answer, refreshed]
  | removeInactiveServer => simp [Timed.isFrom] at own
  | listServer request => simp [Timed.isFrom] at own

/-- While an address is attended, its latest message is its latest accepted one. -/
theorem lastAccepted_of_attended {heartBeatRate : Int} {a : String} {events : List (Timed float)}
    (attended : Transition.Always step (initial heartBeatRate) events (Attended a))
    (first : RegistersFirst a events) :
    lastAccepted a (logged heartBeatRate events) = lastMessage a events := by
  induction events using List.reverseRecOn with
  | nil => rfl
  | append_singleton events timed ih =>
      have taken := List.prefix_append events [timed]
      have earlier := ih (attended.of_prefix taken) (first.of_prefix taken)
      rw [logged_concat, lastMessage_concat, lastAccepted, List.foldl_concat]
      change (if _ then _ else lastAccepted a (logged heartBeatRate events)) = _
      rw [earlier]
      by_cases own : timed.isFrom a = true
      · have accepted : (after heartBeatRate events).answer timed = some .OK :=
          answer_of_attended (attended events taken) first own
        simp [own, accepted]
      · simp [own]

/-- The condition on one step: a sweep comes before the lease of the latest message of
the address has run out. -/
def Timely (heartBeatRate : Int) (a : String) (done : List (Timed float))
    (timed : Timed float) : Prop :=
  timed.isSweep = true → ∀ t, lastMessage a done = some t →
    milliseconds (timed.now - t) ≤ heartBeatRate

/-- A message keeps what is attended, and the first one of the address registers it. -/
theorem attended_message {heartBeatRate : Int} {a : String} {events : List (Timed float)}
    {now : Int} {message : Message float}
    (attended : Attended a events (after heartBeatRate events))
    (first : RegistersFirst a (events ++ [⟨now, .message message⟩])) :
    Attended a (events ++ [⟨now, .message message⟩])
      ((after heartBeatRate events).receive now message).1 := by
  intro known
  by_cases earlier : ∃ timed ∈ events, timed.isFrom a = true
  · exact registered_receive (attended earlier) now message
  · have own : message.address = a := by
      obtain ⟨timed, member, isFrom⟩ := known
      rcases List.mem_append.mp member with old | new
      · exact absurd ⟨timed, old, isFrom⟩ earlier
      · obtain rfl := List.mem_singleton.mp new
        simpa [Timed.isFrom] using isFrom
    have alone : events.filter (Timed.isFrom a) = [] := by
      simpa [List.filter_eq_nil_iff] using earlier
    obtain ⟨request, announced⟩ :=
      first ⟨now, .message message⟩ (by simp [alone, Timed.isFrom, own])
    obtain rfl : message = .establishServer request := by simpa using announced
    exact ⟨newNode request now, by simp, own⟩

/-- A sweep keeps an attended address if and only if it is timely. -/
theorem attended_sweep_iff {heartBeatRate start : Int} (nonneg : 0 ≤ heartBeatRate) {a : String}
    {events : List (Timed float)} {now : Int}
    (ordered : Ordered start (events ++ [⟨now, .removeInactiveServer⟩]))
    (attended : Transition.Always step (initial heartBeatRate) events (Attended a))
    (first : RegistersFirst a events) :
    Attended a (events ++ [⟨now, .removeInactiveServer⟩])
        (after heartBeatRate (events ++ [⟨now, .removeInactiveServer⟩])) ↔
      Timely heartBeatRate a events ⟨now, .removeInactiveServer⟩ := by
  have swept := registered_after_iff nonneg ordered a
  rw [logged_concat, history_sweep, Lease.History.live_sweep_iff] at swept
  have same : (history (logged heartBeatRate events)).last a = lastMessage a events :=
    lastAccepted_of_attended attended first
  rw [same] at swept
  simp only [Expired, not_lt] at swept
  rw [Attended, swept, exists_isFrom_iff, lastMessage_concat]
  simp only [Timed.isFrom, Bool.false_eq_true, if_false, Timely, Timed.isSweep, true_imp_iff]
  constructor
  · intro kept t last
    obtain ⟨t', last', recent⟩ := kept ⟨t, last⟩
    obtain rfl : t = t' := Option.some.inj (last.symm.trans last')
    exact recent
  · rintro timely ⟨t, last⟩
    exact ⟨t, last, timely t last⟩

/-- A provider which registers first and then keeps sending is attended throughout a
run if and only if every sweep of the run is timely. -/
theorem attended_iff {heartBeatRate start : Int} (nonneg : 0 ≤ heartBeatRate)
    {events : List (Timed float)} (ordered : Ordered start events) {a : String}
    (first : RegistersFirst a events) :
    Transition.Always step (initial heartBeatRate) events (Attended a) ↔
      ∀ done timed, done ++ [timed] <+: events → Timely heartBeatRate a done timed := by
  apply Transition.always_iff_step (C := fun done _ => Timely heartBeatRate a done)
  · rintro ⟨timed, member, _⟩
    exact absurd member List.not_mem_nil
  · intro done timed taken always
    have before : done <+: events := (List.prefix_append done [timed]).trans taken
    have here : Attended a done (after heartBeatRate done) := always done (List.prefix_refl done)
    obtain ⟨now, event⟩ := timed
    cases event with
    | message message =>
        refine iff_of_true ?_ (fun sweep => by simp [Timed.isSweep] at sweep)
        exact attended_message here (first.of_prefix taken)
    | removeInactiveServer =>
        rw [← attended_sweep_iff nonneg (ordered.of_prefix taken) always (first.of_prefix before),
          after_concat]
        rfl
    | listServer request =>
        refine iff_of_true ?_ (fun sweep => by simp [Timed.isSweep] at sweep)
        rintro ⟨timed, member, isFrom⟩
        rcases List.mem_append.mp member with old | new
        · exact here ⟨timed, old, isFrom⟩
        · obtain rfl := List.mem_singleton.mp new
          simp [Timed.isFrom] at isFrom

/-! ### The loop of `sendHeartBeat` against the clock -/

/-- One turn of the loop: what it spends on top of the sleep, in nanoseconds, and the
usage which it reports. -/
structure Turn where
  delay : Int
  usage : UInt32
deriving DecidableEq

/-- When the next message follows one that arrived at time `t`. -/
def Turn.next (heartBeatRate : Int) (t : Int) (turn : Turn) : Int :=
  t + heartBeatRate * 1000000 + turn.delay

/-- When the last message of these turns arrives. -/
def endTime (heartBeatRate : Int) (t : Int) (turns : List Turn) : Int :=
  turns.foldl (Turn.next heartBeatRate) t

/-- The heartbeats of these turns, after a message that arrived at time `t`. -/
def heartbeats (heartBeatRate : Int) (a : String) : Int → List Turn → List (Timed float)
  | _, [] => []
  | t, turn :: turns =>
      ⟨turn.next heartBeatRate t, .message (.sendHeartbeat ⟨true, turn.usage, a⟩)⟩ ::
        heartbeats heartBeatRate a (turn.next heartBeatRate t) turns

/-- All messages of a provider that registers once and then turns its loop. -/
def loopMessages (heartBeatRate : Int) (registration : NewServer float) (established : Int)
    (turns : List Turn) : List (Timed float) :=
  ⟨established, .message (.establishServer registration)⟩ ::
    heartbeats heartBeatRate registration.serverAddress established turns

/-- A run in which one provider keeps turning its loop until the end, among arbitrary
messages of other providers, and sweeps are at least twice the rate apart. -/
structure Steady (heartBeatRate start : Int) (registration : NewServer float)
    (established : Int) (turns : List Turn) (events : List (Timed float)) : Prop where
  ordered : Ordered start events
  messages : events.filter (Timed.isFrom registration.serverAddress) =
    loopMessages heartBeatRate registration established turns
  sweeps : (start :: (events.filter Timed.isSweep).map Timed.now).Pairwise
    fun earlier later => earlier + 2 * heartBeatRate * 1000000 ≤ later
  turning : ∀ timed ∈ events, timed.now ≤ endTime heartBeatRate established turns

theorem heartbeats_append (heartBeatRate : Int) (a : String) (t : Int)
    (turns more : List Turn) :
    (heartbeats heartBeatRate a t (turns ++ more) : List (Timed float)) =
      heartbeats heartBeatRate a t turns ++
        heartbeats heartBeatRate a (endTime heartBeatRate t turns) more := by
  induction turns generalizing t with
  | nil => rfl
  | cons turn turns ih => simp only [List.cons_append, heartbeats, ih, endTime, List.foldl_cons]

theorem mem_heartbeats {heartBeatRate : Int} {a : String} {t : Int} {turns : List Turn}
    {timed : Timed float} (member : timed ∈ heartbeats heartBeatRate a t turns) :
    timed.isFrom a = true ∧ timed.isSweep = false := by
  induction turns generalizing t with
  | nil => exact absurd member List.not_mem_nil
  | cons turn turns ih =>
      rcases List.mem_cons.mp member with rfl | later
      · exact ⟨by simp [Timed.isFrom, Message.address], rfl⟩
      · exact ih later

/-- Two consecutive messages of the loop are one turn apart. -/
theorem turn_of_consecutive {heartBeatRate : Int} {a : String} {turns : List Turn}
    {head last next : Timed float} {front back : List (Timed float)}
    (split : head :: heartbeats heartBeatRate a head.now turns = front ++ next :: back)
    (found : front.getLast? = some last) :
    ∃ turn ∈ turns, next.now = turn.next heartBeatRate last.now := by
  induction turns generalizing head front with
  | nil =>
      cases front with
      | nil => simp at found
      | cons _ front => simp [heartbeats] at split
  | cons turn turns ih =>
      cases front with
      | nil => simp at found
      | cons first front =>
          rw [List.cons_append, List.cons.injEq] at split
          obtain ⟨rfl, rest⟩ := split
          cases front with
          | nil =>
              obtain rfl : head = last := by simpa using found
              rw [heartbeats, List.nil_append, List.cons.injEq] at rest
              exact ⟨turn, by simp, by rw [← rest.1]⟩
          | cons second front =>
              obtain ⟨turn', member, gap⟩ := ih rest (by simpa using found)
              exact ⟨turn', List.mem_cons_of_mem _ member, gap⟩

theorem getLast_loop (heartBeatRate : Int) (a : String) (head : Timed float)
    (turns : List Turn) :
    ((head :: heartbeats heartBeatRate a head.now turns).getLast?).map Timed.now =
      some (endTime heartBeatRate head.now turns) := by
  induction turns generalizing head with
  | nil => rfl
  | cons turn turns ih =>
      rw [heartbeats, List.getLast?_cons_cons, endTime, List.foldl_cons]
      exact ih _

/-- A turn never takes less than no time. -/
def Forward (heartBeatRate : Int) (turns : List Turn) : Prop :=
  ∀ turn ∈ turns, 0 ≤ heartBeatRate * 1000000 + turn.delay

theorem Forward.ordered {heartBeatRate : Int} {turns : List Turn}
    (forward : Forward heartBeatRate turns) (a : String) (t : Int) :
    (t :: (heartbeats heartBeatRate a t turns : List (Timed float)).map Timed.now).Pairwise
      (· ≤ ·) := by
  induction turns generalizing t with
  | nil => simp [heartbeats]
  | cons turn turns ih =>
      obtain ⟨here, later⟩ := List.forall_mem_cons.mp forward
      have rest := ih later (turn.next heartBeatRate t)
      have step : t ≤ turn.next heartBeatRate t := by
        simp only [Turn.next]
        omega
      rw [heartbeats, List.map_cons, List.pairwise_cons]
      refine ⟨?_, rest⟩
      intro u member
      rcases List.mem_cons.mp member with rfl | after
      · exact step
      · exact step.trans ((List.pairwise_cons.mp rest).1 u after)

theorem Forward.le_endTime {heartBeatRate : Int} {turns : List Turn}
    (forward : Forward heartBeatRate turns) (t : Int) : t ≤ endTime heartBeatRate t turns := by
  induction turns generalizing t with
  | nil => exact le_refl t
  | cons turn turns ih =>
      obtain ⟨here, later⟩ := List.forall_mem_cons.mp forward
      have rest := ih later (turn.next heartBeatRate t)
      simp only [Turn.next] at rest
      rw [endTime, List.foldl_cons, ← endTime, Turn.next]
      omega

theorem Forward.now_le_endTime {heartBeatRate : Int} {turns : List Turn}
    (forward : Forward heartBeatRate turns) (a : String) (t : Int) :
    ∀ timed ∈ (heartbeats heartBeatRate a t turns : List (Timed float)),
      timed.now ≤ endTime heartBeatRate t turns := by
  induction turns generalizing t with
  | nil => exact fun _ member => absurd member List.not_mem_nil
  | cons turn turns ih =>
      obtain ⟨_, later⟩ := List.forall_mem_cons.mp forward
      exact List.forall_mem_cons.mpr
        ⟨Forward.le_endTime later _, ih later (turn.next heartBeatRate t)⟩

/-! ### Which delays are harmless -/

section Steady

variable {heartBeatRate start established : Int} {registration : NewServer float}
variable {turns : List Turn} {events : List (Timed float)}

theorem Steady.registersFirst
    (steady : Steady heartBeatRate start registration established turns events) :
    RegistersFirst registration.serverAddress events := by
  intro timed found
  rw [steady.messages, loopMessages, List.head?_cons, Option.some.injEq] at found
  exact ⟨registration, by rw [← found]⟩

/-- If no turn loses a full millisecond, every sweep is timely: the next message, if
the sweep is not the end of the run, arrives before the last one is too old. -/
theorem Steady.timely (nonneg : 0 ≤ heartBeatRate)
    (steady : Steady heartBeatRate start registration established turns events)
    (short : ∀ turn ∈ turns, turn.delay < 1000000) {done : List (Timed float)}
    {timed : Timed float} (taken : done ++ [timed] <+: events) :
    Timely heartBeatRate registration.serverAddress done timed := by
  intro sweep t last
  obtain ⟨latest, found, rfl⟩ := Option.map_eq_some_iff.mp last
  have foreign : timed.isFrom registration.serverAddress = false := by
    obtain ⟨now, event⟩ := timed
    cases event <;> simp_all [Timed.isFrom, Timed.isSweep]
  obtain ⟨rest, rfl⟩ := taken
  have messages := steady.messages
  rw [List.filter_append, List.filter_append, List.filter_cons_of_neg (by simp [foreign]),
    List.filter_nil, List.append_nil] at messages
  rw [milliseconds_le_iff nonneg]
  cases remaining : rest.filter (Timed.isFrom registration.serverAddress) with
  | nil =>
      have ended := getLast_loop heartBeatRate registration.serverAddress
        ⟨established, .message (.establishServer registration)⟩ turns
      rw [remaining, List.append_nil] at messages
      change ((loopMessages heartBeatRate registration established turns).getLast?).map _ = _
        at ended
      rw [← messages, found, Option.map_some, Option.some.injEq] at ended
      have bound := steady.turning timed (by simp)
      rw [← ended] at bound
      omega
  | cons next back =>
      rw [remaining] at messages
      obtain ⟨turn, member, gap⟩ := turn_of_consecutive messages.symm found
      have inside : next ∈ rest := (List.mem_filter.mp (remaining ▸ List.mem_cons_self)).1
      have order := (List.pairwise_cons.mp steady.ordered).2
      rw [List.map_append, List.pairwise_append] at order
      have before := order.2.2 timed.now (by simp) next.now (List.mem_map_of_mem inside)
      have quick := short turn member
      simp only [Turn.next] at gap
      omega

/-- A sweep right before the message of a given turn. -/
def disturbed (heartBeatRate : Int) (registration : NewServer float) (established : Int)
    (turns : List Turn) (turn : Turn) (more : List Turn) : List (Timed float) :=
  loopMessages heartBeatRate registration established turns ++
    ⟨turn.next heartBeatRate (endTime heartBeatRate established turns), .removeInactiveServer⟩ ::
      heartbeats heartBeatRate registration.serverAddress
        (endTime heartBeatRate established turns) (turn :: more)

private theorem pairwise_twice {xs ys : List Int} {x : Int}
    (order : (xs ++ x :: ys).Pairwise (· ≤ ·)) : (xs ++ x :: x :: ys).Pairwise (· ≤ ·) := by
  obtain ⟨front, back, across⟩ := List.pairwise_append.mp order
  refine List.pairwise_append.mpr ⟨front, List.pairwise_cons.mpr ⟨?_, back⟩, ?_⟩
  · exact List.forall_mem_cons.mpr ⟨le_refl x, (List.pairwise_cons.mp back).1⟩
  · intro y member
    exact List.forall_mem_cons.mpr ⟨across y member x List.mem_cons_self, across y member⟩

theorem filter_isFrom_loop (heartBeatRate : Int) (registration : NewServer float)
    (established : Int) (turns : List Turn) :
    (loopMessages heartBeatRate registration established turns).filter
        (Timed.isFrom registration.serverAddress) =
      loopMessages heartBeatRate registration established turns := by
  refine List.filter_eq_self.mpr (List.forall_mem_cons.mpr ⟨?_, ?_⟩)
  · simp [Timed.isFrom, Message.address]
  · exact fun _ member => (mem_heartbeats member).1

theorem loopMessages_append (heartBeatRate : Int) (registration : NewServer float)
    (established : Int) (turns more : List Turn) :
    loopMessages heartBeatRate registration established (turns ++ more) =
      loopMessages heartBeatRate registration established turns ++
        heartbeats heartBeatRate registration.serverAddress
          (endTime heartBeatRate established turns) more := by
  rw [loopMessages, heartbeats_append]
  rfl

/-- Clock readings do not decrease: the sweep has that of the message after it. -/
theorem disturbed_ordered {turn : Turn} {more : List Turn} {early : Int}
    (forward : Forward heartBeatRate (turns ++ turn :: more)) (first : early ≤ established) :
    Ordered early (disturbed heartBeatRate registration established turns turn more) := by
  have order : (established :: (heartbeats heartBeatRate registration.serverAddress established
      (turns ++ turn :: more) : List (Timed float)).map Timed.now).Pairwise (· ≤ ·) :=
    forward.ordered registration.serverAddress established
  rw [heartbeats_append, heartbeats, List.map_append, List.map_cons,
    ← List.cons_append] at order
  have twice := pairwise_twice order
  rw [Ordered, disturbed, loopMessages, heartbeats, List.map_append, List.map_cons,
    List.map_cons, List.map_cons, List.pairwise_cons]
  refine ⟨?_, twice⟩
  rw [List.cons_append] at twice ⊢
  refine List.forall_mem_cons.mpr ⟨first, fun u member => ?_⟩
  exact first.trans ((List.pairwise_cons.mp twice).1 u member)

theorem disturbed_messages (turn : Turn) (more : List Turn) :
    (disturbed heartBeatRate registration established turns turn more).filter
        (Timed.isFrom registration.serverAddress) =
      loopMessages heartBeatRate registration established (turns ++ turn :: more) := by
  rw [disturbed, List.filter_append, List.filter_cons_of_neg (by simp [Timed.isFrom]),
    filter_isFrom_loop, loopMessages_append]
  congr 1
  exact List.filter_eq_self.mpr fun _ member => (mem_heartbeats member).1

/-- There is one sweep, at the time of the next message. -/
theorem disturbed_sweeps (turn : Turn) (more : List Turn) :
    (disturbed heartBeatRate registration established turns turn more).filter Timed.isSweep =
      [⟨turn.next heartBeatRate (endTime heartBeatRate established turns),
        .removeInactiveServer⟩] := by
  have silent : ∀ (u : Int) (others : List Turn),
      (heartbeats heartBeatRate registration.serverAddress u others :
        List (Timed float)).filter Timed.isSweep = [] := fun u others =>
    List.filter_eq_nil_iff.mpr fun _ member => by simp [(mem_heartbeats member).2]
  rw [disturbed, List.filter_append, loopMessages,
    List.filter_cons_of_neg (by simp [Timed.isSweep]), silent,
    List.filter_cons_of_pos (by rfl), silent, List.nil_append]

theorem disturbed_turning {turn : Turn} {more : List Turn}
    (forward : Forward heartBeatRate (turns ++ turn :: more)) :
    ∀ timed ∈ disturbed heartBeatRate registration established turns turn more,
      timed.now ≤ endTime heartBeatRate established (turns ++ turn :: more) := by
  have start := forward.le_endTime established
  have bounds : ∀ timed ∈ (heartbeats heartBeatRate registration.serverAddress established
      (turns ++ turn :: more) : List (Timed float)),
      timed.now ≤ endTime heartBeatRate established (turns ++ turn :: more) :=
    forward.now_le_endTime registration.serverAddress established
  rw [heartbeats_append] at bounds
  intro timed member
  rw [disturbed, List.mem_append, List.mem_cons] at member
  rcases member with earlier | rfl | later
  · rcases List.mem_cons.mp earlier with rfl | beat
    · exact start
    · exact bounds timed (List.mem_append_left _ beat)
  · let beat : Timed float :=
      ⟨turn.next heartBeatRate (endTime heartBeatRate established turns),
        .message (.sendHeartbeat ⟨true, turn.usage, registration.serverAddress⟩)⟩
    exact bounds beat (List.mem_append_right _ List.mem_cons_self)
  · exact bounds timed (List.mem_append_right _ later)

/-- The sweep is inserted right before a message, so the disturbed run is still one of
a provider that keeps turning its loop. -/
theorem disturbed_steady (pos : 0 < heartBeatRate) {turn : Turn} {more : List Turn}
    (delays : ∀ other ∈ turns ++ turn :: more, 0 ≤ other.delay) :
    Steady heartBeatRate (established - 2 * heartBeatRate * 1000000) registration established
      (turns ++ turn :: more)
      (disturbed heartBeatRate registration established turns turn more) := by
  have forward : Forward heartBeatRate (turns ++ turn :: more) := by
    intro other member
    have delay := delays other member
    omega
  have sooner : Forward heartBeatRate turns :=
    fun other member => forward other (List.mem_append_left _ member)
  constructor
  · exact disturbed_ordered forward (by omega)
  · exact disturbed_messages turn more
  · have progress := sooner.le_endTime established
    have delay := delays turn (by simp)
    rw [disturbed_sweeps, List.map_cons, List.map_nil, List.pairwise_pair]
    simp only [Turn.next]
    omega
  · exact disturbed_turning forward

end Steady

/-- The messages of a healthy provider arrive the rate and a delay below the rate apart.
No schedule of sweeps at least twice the rate apart ever evicts it if and only if no
turn of its loop loses a full millisecond. -/
theorem never_evicted_iff {heartBeatRate : Int} (pos : 0 < heartBeatRate)
    (registration : NewServer float) (established : Int) {turns : List Turn}
    (delays : ∀ turn ∈ turns, 0 ≤ turn.delay ∧ turn.delay < heartBeatRate * 1000000) :
    (∀ start (events : List (Timed float)),
      Steady heartBeatRate start registration established turns events →
        Transition.Always step (initial heartBeatRate) events
          (Attended registration.serverAddress)) ↔
      ∀ turn ∈ turns, turn.delay < 1000000 := by
  constructor
  · intro never turn member
    by_contra long
    obtain ⟨front, more, rfl⟩ := List.append_of_mem member
    have steady : Steady heartBeatRate _ registration established (front ++ turn :: more) _ :=
      disturbed_steady pos fun other inside => (delays other inside).1
    have timely := (attended_iff pos.le steady.ordered steady.registersFirst).mp
      (never _ _ steady) (loopMessages heartBeatRate registration established front) _
      ⟨_, by rw [List.append_assoc]; rfl⟩ rfl
    have last := getLast_loop heartBeatRate registration.serverAddress
      ⟨established, .message (.establishServer registration)⟩ front
    have recent := timely (endTime heartBeatRate established front) (by
      rw [lastMessage, filter_isFrom_loop]
      exact last)
    rw [milliseconds_le_iff pos.le] at recent
    simp only [Turn.next] at recent
    omega
  · intro short start events steady
    rw [attended_iff pos.le steady.ordered steady.registersFirst]
    exact fun done timed taken => steady.timely pos.le short taken

/-- A provider which loses half a second in its first turn, and a sweep which comes
while it is late. -/
def late : List (Timed Int) :=
  [⟨800000000, .message (.establishServer ⟨1, "provider:1", ["MeshSmooth"]⟩)⟩,
    ⟨2000000000, .removeInactiveServer⟩,
    ⟨2300000000, .message (.sendHeartbeat ⟨true, 7, "provider:1"⟩)⟩]

theorem late_evicted :
    Steady 1000 0 ⟨1, "provider:1", ["MeshSmooth"]⟩ 800000000 [⟨500000000, 7⟩] late ∧
      ¬ Transition.Always step (initial 1000) late (Attended "provider:1") := by
  refine ⟨⟨?_, by decide, by decide, by decide⟩, ?_⟩
  · unfold Ordered
    decide
  · intro always
    have registered := always (late.take 2) (by decide)
      ⟨⟨800000000, .message (.establishServer ⟨1, "provider:1", ["MeshSmooth"]⟩)⟩,
        by decide, by decide⟩
    revert registered
    unfold Registered
    decide

/-- A provider which loses just less than a millisecond keeps its node over a sweep
which comes right before its heartbeat. -/
theorem never_evicted_prompt :
    Transition.Always step (initial 1000)
      [⟨0, .message (.establishServer ⟨(1 : Int), "provider:1", ["MeshSmooth"]⟩)⟩,
        ⟨1000999999, .removeInactiveServer⟩,
        ⟨1000999999, .message (.sendHeartbeat ⟨true, 7, "provider:1"⟩)⟩]
      (Attended "provider:1") := by
  have delays : ∀ turn ∈ [Turn.mk 999999 7], 0 ≤ turn.delay ∧ turn.delay < 1000 * 1000000 := by
    decide
  refine (never_evicted_iff (by decide) ⟨1, "provider:1", ["MeshSmooth"]⟩ 0 delays).mpr
    (by decide) (-1000000000) _ ?_
  refine ⟨?_, by decide, by decide, by decide⟩
  unfold Ordered
  decide

end Cloud3D.LoadBalanceImpl
