import Mathlib.Algebra.Order.Ring.Int
import Cloud3D.Balancer.Basic
import Cloud3D.List.Least

/-!
# Selection of the least loaded candidate

The loop of `minUsageServer` is the one-pass collection of least elements, with the
load as key, and keeps the address of the first element collected beside it. The
address returned is that of a node of minimal load, for every value of the random
draw, and every node of minimal load has its address returned by some draw. In
particular the set of possible results does not depend on the order of the vector.
-/

namespace Cloud3D

/-- The order by which the compiled code compares two `int` values. -/
instance instLinearOrderInt32 : LinearOrder Int32 where
  le_refl := Int32.le_refl
  le_trans _ _ _ := Int32.le_trans
  le_antisymm _ _ := Int32.le_antisymm
  le_total := Int32.le_total
  lt_iff_le_not_ge _ _ := by
    rw [Int32.lt_iff_toInt_lt, Int32.le_iff_toInt_le, Int32.le_iff_toInt_le]
    omega
  toDecidableLE := inferInstance
  toDecidableLT := inferInstance
  toDecidableEq := inferInstance

namespace LoadBalanceImpl

variable {float : Type}

/-- Minimum and ties of the loop are those of the general collection loop. -/
theorem foldl_visit_eq (unset : Int32) (selected : Selected float)
    (servers : List (ServerNode float)) :
    ((servers.foldl (Selected.visit unset) selected).minUsage,
        (servers.foldl (Selected.visit unset) selected).sameUsageProviders) =
      servers.foldl (Least.visit fun server => server.load unset)
        (selected.minUsage, selected.sameUsageProviders) := by
  induction servers generalizing selected with
  | nil => rfl
  | cons server servers ih =>
      rw [List.foldl_cons, List.foldl_cons, ih]
      congr 1
      simp only [Selected.visit, Least.visit]
      split
      · rfl
      · split <;> rfl

/-- Once an element is collected, the address kept is that of the first one. -/
theorem foldl_visit_head (unset : Int32) (selected : Selected float)
    (servers : List (ServerNode float))
    (first : selected.sameUsageProviders.head?.map ServerNode.address =
      some selected.minUsageAddress) :
    (servers.foldl (Selected.visit unset) selected).sameUsageProviders.head?.map
        ServerNode.address =
      some (servers.foldl (Selected.visit unset) selected).minUsageAddress := by
  induction servers generalizing selected with
  | nil => exact first
  | cons server servers ih =>
      apply ih (selected.visit unset server)
      simp only [Selected.visit]
      split
      · rfl
      · split
        · obtain ⟨head, found, same⟩ := Option.map_eq_some_iff.mp first
          simp [List.head?_append, found, same]
        · exact first

/-- A node of a vector which no node of the vector undercuts. -/
def LeastLoaded (unset : Int32) (servers : List (ServerNode float)) (server : ServerNode float) :
    Prop :=
  server ∈ servers ∧ ∀ other ∈ servers, server.load unset ≤ other.load unset

theorem exists_leastLoaded (unset : Int32) (front : ServerNode float)
    (servers : List (ServerNode float)) :
    ∃ server, LeastLoaded unset (front :: servers) server :=
  Least.exists_least (fun server : ServerNode float => server.load unset)
    (List.cons_ne_nil front servers)

/-- The tie list is what the general loop collects. -/
theorem sameUsageProviders_eq (unset : Int32) (front : ServerNode float)
    (servers : List (ServerNode float)) :
    (select unset front (front :: servers)).sameUsageProviders =
      ((front :: servers).foldl (Least.visit fun server => server.load unset)
        (front.load unset, [])).2 :=
  congrArg Prod.snd (foldl_visit_eq unset
    { minUsage := front.load unset
      minUsageAddress := front.address
      sameUsageProviders := [] } (front :: servers))

theorem mem_sameUsageProviders_iff (unset : Int32) (front : ServerNode float)
    (servers : List (ServerNode float)) (server : ServerNode float) :
    server ∈ (select unset front (front :: servers)).sameUsageProviders ↔
      LeastLoaded unset (front :: servers) server := by
  rw [sameUsageProviders_eq]
  exact Least.mem_ties_iff (fun server : ServerNode float => server.load unset)
    List.mem_cons_self server

/-- The tie list of a non-empty vector has an element, and no more than the vector has. -/
theorem length_sameUsageProviders (unset : Int32) (front : ServerNode float)
    (servers : List (ServerNode float)) :
    0 < (select unset front (front :: servers)).sameUsageProviders.length ∧
      (select unset front (front :: servers)).sameUsageProviders.length ≤
        (front :: servers).length := by
  constructor
  · obtain ⟨server, least⟩ := exists_leastLoaded unset front servers
    apply List.length_pos_of_mem
    exact (mem_sameUsageProviders_iff unset front servers server).mpr least
  · rw [sameUsageProviders_eq]
    exact (Least.ties_sublist _ _ _).length_le

theorem head_sameUsageProviders (unset : Int32) (front : ServerNode float)
    (servers : List (ServerNode float)) :
    (select unset front (front :: servers)).sameUsageProviders.head?.map ServerNode.address =
      some (select unset front (front :: servers)).minUsageAddress := by
  have turn : Selected.visit unset
      { minUsage := front.load unset
        minUsageAddress := front.address
        sameUsageProviders := [] } front =
      { minUsage := front.load unset
        minUsageAddress := front.address
        sameUsageProviders := [front] } := by
    simp [Selected.visit]
  rw [select, List.foldl_cons, turn]
  exact foldl_visit_head unset _ servers rfl

theorem exists_draw {size i : Nat} (bound : i < size) :
    ∃ draw : Draw, draw.dist (size - 1) = i :=
  ⟨⟨fun hi => min i hi, fun hi => Nat.min_le_right i hi⟩, by
    change min i (size - 1) = i
    omega⟩

/-- Every draw selects the address of a node of minimal load. -/
theorem minUsageServer_cons (unset : Int32) (draw : Draw) (front : ServerNode float)
    (servers : List (ServerNode float)) :
    ∃ server, LeastLoaded unset (front :: servers) server ∧
      minUsageServer unset draw (front :: servers) = some server.address := by
  have first := head_sameUsageProviders unset front servers
  have least := mem_sameUsageProviders_iff unset front servers
  simp only [minUsageServer]
  generalize select unset front (front :: servers) = selected at first least ⊢
  split
  · have bound : draw.dist (selected.sameUsageProviders.length - 1) <
        selected.sameUsageProviders.length := by
      have drawn := draw.dist_le (selected.sameUsageProviders.length - 1)
      omega
    exact ⟨_, (least _).mp (List.getElem_mem bound), by rw [List.getElem?_eq_getElem bound]; rfl⟩
  · obtain ⟨server, found, same⟩ := Option.map_eq_some_iff.mp first
    exact ⟨server, (least server).mp (List.mem_of_head? found), by rw [same]⟩

/-- Every node of minimal load is selected by some draw. -/
theorem exists_draw_minUsageServer {unset : Int32} {servers : List (ServerNode float)}
    {server : ServerNode float} (minimal : LeastLoaded unset servers server) :
    ∃ draw, minUsageServer unset draw servers = some server.address := by
  cases servers with
  | nil => exact absurd minimal.1 List.not_mem_nil
  | cons front servers =>
      have first := head_sameUsageProviders unset front servers
      have collected := (mem_sameUsageProviders_iff unset front servers server).mpr minimal
      simp only [minUsageServer]
      generalize select unset front (front :: servers) = selected at first collected ⊢
      obtain ⟨i, bound, rfl⟩ := List.mem_iff_getElem.mp collected
      obtain ⟨draw, drawn⟩ := exists_draw bound
      refine ⟨draw, ?_⟩
      split
      · rw [drawn, List.getElem?_eq_getElem bound]
        rfl
      · obtain ⟨only, single⟩ := List.length_eq_one_iff.mp
          (show selected.sameUsageProviders.length = 1 by omega)
        have here : i = 0 := by omega
        subst here
        simp only [single, List.head?_cons, Option.map_some, List.getElem_cons_zero] at first ⊢
        exact first.symm

/-- The possible results on a non-empty vector are the addresses of its nodes of
minimal load. -/
theorem exists_minUsageServer_iff (unset : Int32) {servers : List (ServerNode float)}
    (candidates : servers ≠ []) (a : String) :
    (∃ draw, minUsageServer unset draw servers = some a) ↔
      ∃ server, LeastLoaded unset servers server ∧ server.address = a := by
  obtain ⟨front, rest, rfl⟩ := List.exists_cons_of_ne_nil candidates
  constructor
  · rintro ⟨draw, result⟩
    obtain ⟨server, minimal, address⟩ := minUsageServer_cons unset draw front rest
    exact ⟨server, minimal, Option.some.inj (address.symm.trans result)⟩
  · rintro ⟨server, minimal, rfl⟩
    exact exists_draw_minUsageServer minimal

/-- `minUsageServer` answers the empty string for no candidate; otherwise its draw is
within an `int` and indexes the tie list, and over all draws it answers exactly the
addresses of the least loaded candidates. -/
theorem minUsageServer_exact (unset : Int32) (servers : List (ServerNode float))
    (short : servers.length < 2 ^ 31) :
    (servers = [] → ∀ draw, minUsageServer unset draw servers = some "") ∧
    (∀ front rest, servers = front :: rest →
      let size := (select unset front servers).sameUsageProviders.length
      size - 1 < 2 ^ 31 ∧ ∀ draw : Draw, draw.dist (size - 1) < size) ∧
    (servers ≠ [] → ∀ draw, ∃ server, LeastLoaded unset servers server ∧
      minUsageServer unset draw servers = some server.address) ∧
    (servers ≠ [] →
      {a | ∃ draw, minUsageServer unset draw servers = some a} =
        {a | ∃ server, LeastLoaded unset servers server ∧ server.address = a}) := by
  refine ⟨?_, ?_, ?_, ?_⟩
  · rintro rfl draw
    rfl
  · rintro front rest rfl
    obtain ⟨positive, atMost⟩ := length_sameUsageProviders unset front rest
    refine ⟨by omega, fun draw => ?_⟩
    have drawn := draw.dist_le
      ((select unset front (front :: rest)).sameUsageProviders.length - 1)
    omega
  · intro candidates draw
    obtain ⟨front, rest, rfl⟩ := List.exists_cons_of_ne_nil candidates
    exact minUsageServer_cons unset draw front rest
  · intro candidates
    ext a
    exact exists_minUsageServer_iff unset candidates a

/-- Three nodes of which the first and the last tie. -/
theorem minUsageServer_exact_tie :
    let node (address : String) (usage : Int32) : ServerNode Nat :=
      { address, operations := [], version := 0, usage := some usage, lastBeat := 0 }
    {a | ∃ draw, minUsageServer 0 draw [node "a" 1, node "b" 2, node "c" 1] = some a} =
      {a | ∃ server, LeastLoaded 0 [node "a" 1, node "b" 2, node "c" 1] server ∧
        server.address = a} :=
  (minUsageServer_exact 0 _ (by decide)).2.2.2 (by simp)

theorem listServer_eq_some_iff [LinearOrder float] (balancer : LoadBalanceImpl float)
    (unset : Int32) (draw : Draw) (request : ServerRequest float) (a : String) :
    balancer.listServer unset draw request = some (.OK, ⟨a⟩) ↔
      minUsageServer unset draw (balancer.possibleServers (requested request)) = some a := by
  simp [listServer, findBestServer]

/-- A non-empty address is only returned for a candidate. -/
theorem mem_of_listServer [LinearOrder float] {balancer : LoadBalanceImpl float}
    {unset : Int32} {draw : Draw} {request : ServerRequest float} {reply : ServerReply}
    (returned : balancer.listServer unset draw request = some (.OK, reply))
    (nonempty : reply.serverAddresss ≠ "") :
    ∃ server ∈ balancer.possibleServers (requested request),
      server.address = reply.serverAddresss := by
  have result := (listServer_eq_some_iff balancer unset draw request _).mp returned
  cases candidates : balancer.possibleServers (requested request) with
  | nil =>
      rw [candidates] at result
      exact absurd (Option.some.inj result).symm nonempty
  | cons front servers =>
      rw [candidates] at result
      obtain ⟨server, minimal, address⟩ := minUsageServer_cons unset draw front servers
      exact ⟨server, minimal.1, Option.some.inj (address.symm.trans result)⟩

end LoadBalanceImpl

end Cloud3D
