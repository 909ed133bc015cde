import Mathlib.Data.List.Permutation
import Mathlib.Order.Fin.Basic
import SdkForge.Proofs.StableSort
import SdkForge.Server.Router

/-!
# Which route answers a request

A router tries its routes one after the other, more specific specs first. Which route answers does
not depend on how they are sorted: `Wins` is the choice without an order in which routes are tried.

* `find_eq_ok_iff` says that a request reaches the service of the route that wins it.
* `find_ofList` is the whole account of a router: which service a request reaches and why it reaches
  none, that routes may trade places with less and more specific ones, and that other services do
  not change which route answers.
-/

namespace SdkForge.Server

variable {σ : Type} {protocol : WireProtocol} {routes other : List (RequestSpec × σ)}
  {request : Http.Request} {route : RequestSpec × σ}

/-! ## Winning -/

/-- The route at a position wins a request: it admits it, no other that does is more specific, and
of those that are as specific it stands first. -/
structure Wins (routes : List (RequestSpec × σ)) (request : Http.Request) (i : Fin routes.length) :
    Prop where
  admits : routes[i].1.admits request = .yes
  greatest : ∀ j : Fin routes.length, routes[j].1.admits request = .yes →
    routes[j].1.rank ≤ routes[i].1.rank
  first : ∀ j : Fin routes.length, routes[j].1.admits request = .yes →
    routes[j].1.rank = routes[i].1.rank → i ≤ j

/-- At most one route wins a request. -/
lemma Wins.unique {i j : Fin routes.length} (hi : Wins routes request i)
    (hj : Wins routes request j) : i = j := by
  have hrank : routes[i].1.rank = routes[j].1.rank :=
    le_antisymm (hj.greatest i hi.admits) (hi.greatest j hj.admits)
  exact le_antisymm (hi.first j hj.admits hrank.symm) (hj.first i hi.admits hrank)

/-- The routes are the same ones in another order, in which equally specific routes stand as they
stood. -/
structure Reorders (other routes : List (RequestSpec × σ)) : Prop where
  perm : other.Perm routes
  ranks : ∀ rank, (other.filter fun route => route.1.rank = rank) = routes.filter fun route =>
    route.1.rank = rank

namespace Router

/-! ## Sorted routes -/

lemma perm_routes : (ofList protocol routes).routes.Perm routes := List.mergeSort_perm _ _

lemma pairwise_routes : (ofList protocol routes).routes.Pairwise fun a b => b.1.rank ≤ a.1.rank :=
  StableSort.pairwise_mergeSort (fun route => OrderDual.toDual route.1.rank) routes

/-- Sorting keeps the order of equally specific routes. -/
lemma filter_rank_routes (protocol : WireProtocol) (routes : List (RequestSpec × σ)) (rank : Nat) :
    ((ofList protocol routes).routes.filter fun route => route.1.rank = rank) =
      routes.filter fun route => route.1.rank = rank :=
  StableSort.filter_mergeSort (fun route => OrderDual.toDual route.1.rank) routes
    (OrderDual.toDual rank)

/-! ## Finding a route -/

/-- Among equally specific routes it makes no difference whether one looks through the sorted
ones. -/
lemma find?_ranked_routes (protocol : WireProtocol) (routes : List (RequestSpec × σ)) (rank : Nat) :
    ((ofList protocol routes).routes.find? fun route => route.1.rank = rank ∧
      route.1.admits request = .yes) = routes.find? fun route => route.1.rank = rank ∧
        route.1.admits request = .yes := by
  have hfilter := congrArg (List.find? fun route => decide (route.1.admits request = .yes))
    (filter_rank_routes protocol routes rank)
  simpa only [List.find?_filter, decide_eq_true_eq] using hfilter

/-- The first sorted route that admits a request, found without sorting: no route that admits it is
more specific, and of those that are as specific it is the first. -/
lemma find?_routes_eq_some_iff :
    ((ofList protocol routes).routes.find? fun route => route.1.admits request = .yes) =
      some route ↔
      (∀ o ∈ routes, o.1.admits request = .yes → o.1.rank ≤ route.1.rank) ∧
      (routes.find? fun o => o.1.rank = route.1.rank ∧ o.1.admits request = .yes) = some route := by
  rw [← find?_ranked_routes protocol, List.find?_eq_some_iff_append, List.find?_eq_some_iff_append]
  constructor
  · rintro ⟨hyes, before, after, hsplit, hbefore⟩
    refine ⟨fun o hmem ho => ?_, by simpa using hyes, before, after, hsplit, fun o hmem => ?_⟩
    · have hsorted : (before ++ route :: after).Pairwise fun a b => b.1.rank ≤ a.1.rank :=
        hsplit ▸ pairwise_routes
      have hmem : o ∈ before ++ route :: after := hsplit ▸ perm_routes.mem_iff.2 hmem
      rcases List.mem_append.1 hmem with hmem | hmem
      · simpa [ho] using hbefore o hmem
      · rcases List.mem_cons.1 hmem with rfl | hmem
        · exact le_rfl
        · exact List.rel_of_pairwise_cons (List.pairwise_append.1 hsorted).2.1 hmem
    · have ho := hbefore o hmem
      simp_all
  · rintro ⟨hgreatest, hyes, before, after, hsplit, hbefore⟩
    have hsorted : (before ++ route :: after).Pairwise fun a b => b.1.rank ≤ a.1.rank :=
      hsplit ▸ pairwise_routes
    refine ⟨by simp_all, before, after, hsplit, fun o hmem => ?_⟩
    -- what stands before is at least as specific, and not more specific if it admits the request
    by_contra ho
    have hadmits : o.1.admits request = .yes := by simpa using ho
    have hroutes : o ∈ routes := perm_routes.mem_iff.1 (hsplit ▸ List.mem_append_left _ hmem)
    have hle := hgreatest o hroutes hadmits
    have hge := (List.pairwise_append.1 hsorted).2.2 o hmem route List.mem_cons_self
    have hother := hbefore o hmem
    simp [hadmits, le_antisymm hle hge] at hother

/-- The first sorted route that admits a request is the one that wins it. -/
lemma find?_routes_eq_some_iff_wins :
    ((ofList protocol routes).routes.find? fun route => route.1.admits request = .yes) =
      some route ↔
      ∃ i, Wins routes request i ∧ routes[i] = route := by
  rw [find?_routes_eq_some_iff, List.find?_eq_some_iff_getElem]
  constructor
  · rintro ⟨hgreatest, hyes, i, hi, rfl, hbefore⟩
    refine ⟨⟨i, hi⟩,
      ⟨by simpa using hyes, fun j hj => hgreatest _ (List.getElem_mem _) hj, fun j hj hrank => ?_⟩,
      rfl⟩
    by_contra hlt
    have hother := hbefore j (not_le.1 hlt)
    simp_all
  · rintro ⟨i, hwins, rfl⟩
    refine ⟨fun o hmem ho => ?_, by simpa using hwins.admits, i, i.isLt, rfl, fun j hj => ?_⟩
    · obtain ⟨j, hj, rfl⟩ := List.mem_iff_getElem.1 hmem
      exact hwins.greatest ⟨j, hj⟩ ho
    · simp only [Bool.not_eq_true', decide_eq_false_iff_not]
      rintro ⟨hrank, hadmits⟩
      exact absurd (hwins.first ⟨j, hj.trans i.isLt⟩ hadmits hrank) (not_le.2 hj)

/-- A request reaches the service of the route that wins it. -/
theorem find_eq_ok_iff {service : σ} : (ofList protocol routes).find request = .ok service ↔
    ∃ i, Wins routes request i ∧ routes[i].2 = service := by
  rw [find]
  cases hfind : (ofList protocol routes).routes.find? fun route =>
    route.1.admits request = .yes with
  | some route =>
    obtain ⟨i, hwins, rfl⟩ := find?_routes_eq_some_iff_wins.1 hfind
    constructor
    · intro h
      exact ⟨i, hwins, Except.ok.inj h⟩
    · rintro ⟨j, hj, rfl⟩
      rw [hwins.unique hj]
  | none =>
    constructor
    · intro h
      contradiction
    · rintro ⟨i, hwins, -⟩
      rw [find?_routes_eq_some_iff_wins.2 ⟨i, hwins, rfl⟩] at hfind
      contradiction

/-- A request that a route admits is won by one. -/
lemma exists_wins {o : RequestSpec × σ} (hmem : o ∈ routes) (hadmits : o.1.admits request = .yes) :
    ∃ i, Wins routes request i := by
  cases hfind : (ofList .restJson1 routes).routes.find? fun route =>
    route.1.admits request = .yes with
  | some route =>
    obtain ⟨i, hwins, -⟩ := find?_routes_eq_some_iff_wins.1 hfind
    exact ⟨i, hwins⟩
  | none => simpa [hadmits] using List.find?_eq_none.1 hfind o (perm_routes.mem_iff.2 hmem)

/-! ## Finding nothing -/

/-- A request that no route admits gets the failure of all routes. -/
lemma find_eq_error_iff {e : RoutingError} : (ofList protocol routes).find request = .error e ↔
    (∀ route ∈ routes, route.1.admits request ≠ .yes) ∧ failure routes request = e := by
  have hfailure : failure (ofList protocol routes).routes request = failure routes request := by
    unfold failure
    rw [perm_routes.any_eq]
  rw [find, hfailure]
  cases hfind : (ofList protocol routes).routes.find? fun route =>
    route.1.admits request = .yes with
  | some route =>
    have hmem : route ∈ routes := perm_routes.mem_iff.1 (List.mem_of_find?_eq_some hfind)
    have hadmits : route.1.admits request = .yes := by simpa using List.find?_some hfind
    constructor
    · intro h
      contradiction
    · rintro ⟨hnone, -⟩
      exact absurd hadmits (hnone route hmem)
  | none =>
    have hnone : ∀ route ∈ routes, route.1.admits request ≠ .yes := fun route hmem =>
      by simpa using List.find?_eq_none.1 hfind route (perm_routes.mem_iff.2 hmem)
    rw [Except.error.injEq]
    exact ⟨fun h => ⟨hnone, h⟩, And.right⟩

/-! ## Other orders and other services -/

lemma find_eq_of_reorders (h : Reorders other routes) :
    (ofList protocol other).find request = (ofList protocol routes).find request := by
  have hfound : ((ofList protocol other).routes.find? fun route => route.1.admits request = .yes) =
      (ofList protocol routes).routes.find? fun route => route.1.admits request = .yes := by
    refine Option.ext fun route => ?_
    have hranked :=
      congrArg (List.find? fun route => decide (route.1.admits request = .yes))
        (h.ranks route.1.rank)
    simp only [List.find?_filter, decide_eq_true_eq] at hranked
    rw [find?_routes_eq_some_iff, find?_routes_eq_some_iff, hranked]
    simp only [h.perm.mem_iff]
  have hfailure :
      failure (ofList protocol other).routes request =
        failure (ofList protocol routes).routes request := by
    unfold failure
    rw [((perm_routes.trans h.perm).trans perm_routes.symm).any_eq]
  rw [find, find, hfound, hfailure]

/-- Other services do not change which route answers. -/
lemma find_map {τ : Type} (f : σ → τ) (r : Router σ) :
    (r.map f).find request = (r.find request).map f := by
  have hfailure : failure (r.map f).routes request = failure r.routes request := by
    simp only [failure, map, List.any_map, Function.comp_def]
  have hfind : ((r.map f).routes.find? fun route => route.1.admits request = .yes) =
      (r.routes.find? fun route => route.1.admits request = .yes).map fun route =>
        (route.1, f route.2) := by
    rw [map, List.find?_map]
    rfl
  rw [find, find, hfailure, hfind]
  cases r.routes.find? fun route => route.1.admits request = .yes <;> rfl

/-! ## The account -/

lemma failure_eq_methodNotAllowed_iff {method path : String} :
    failure routes request = .methodNotAllowed method path ↔
      (request.method = method ∧ request.uri.path = path) ∧
      ∃ o ∈ routes, o.1.admits request = .methodNotAllowed := by
  simp only [failure, List.any_eq_true, decide_eq_true_eq]
  split_ifs with h <;> simp [h]

lemma failure_eq_notFound_iff {method path : String} :
    failure routes request = .notFound method path ↔
    (request.method = method ∧ request.uri.path = path) ∧
    ∀ o ∈ routes, o.1.admits request ≠ .methodNotAllowed := by
  simp only [failure, List.any_eq_true, decide_eq_true_eq]
  split_ifs with h
  · simpa using fun _ _ => h
  · simpa using fun _ _ => h

/-- A router answers with the service of the route that wins the request. If no route admits it, the
failure names the request, and it says that the method is not allowed if that is all that some route
refuses; if all routes refuse the request whole, it says that nothing is found. Routes in another
order, in which equally specific ones stand as before, answer every request alike, and so do routes
with other services. -/
theorem find_ofList (protocol : WireProtocol) (routes : List (RequestSpec × σ))
    (request : Http.Request) :
    (∀ service, (ofList protocol routes).find request = .ok service ↔
      ∃ i, Wins routes request i ∧ routes[i].2 = service) ∧
    (∀ method path, (ofList protocol routes).find request = .error (.methodNotAllowed method path) ↔
      (request.method = method ∧ request.uri.path = path) ∧
        (∀ route ∈ routes, route.1.admits request ≠ .yes) ∧ ∃ route ∈ routes,
        route.1.admits request = .methodNotAllowed) ∧
    (∀ method path, (ofList protocol routes).find request = .error (.notFound method path) ↔
      (request.method = method ∧ request.uri.path = path) ∧ ∀ route ∈ routes,
      route.1.admits request = .no) ∧
    (∀ other, Reorders other routes →
      (ofList protocol other).find request = (ofList protocol routes).find request) ∧
    ∀ (τ : Type) (f : σ → τ) (r : Router σ), (r.map f).find request = (r.find request).map f := by
  refine ⟨fun _ => find_eq_ok_iff, fun method path => ?_, fun method path => ?_,
    fun _ => find_eq_of_reorders,
    fun _ => find_map⟩
  · rw [find_eq_error_iff, failure_eq_methodNotAllowed_iff]
    exact and_left_comm
  · rw [find_eq_error_iff, failure_eq_notFound_iff, and_left_comm, ← forall₂_and]
    refine and_congr_right' (forall₂_congr fun route _ => ?_)
    cases route.1.admits request <;> simp

/-- Routes of three ranks, two of which admit `GET /cities/paris`. -/
def cities : List (RequestSpec × String) := [
  (.rest "GET" [.literal "cities"] [], "list"),
  (.rest "GET" [.literal "cities", .label] [], "get"),
  (.rest "GET" [.literal "cities", .literal "paris"] [], "paris"),
  (.rpc "Weather.GetCity", "call")]

/-- The same routes with the last one first, and the first one last. -/
def citiesMoved : List (RequestSpec × String) := [
  (.rpc "Weather.GetCity", "call"),
  (.rest "GET" [.literal "cities", .label] [], "get"),
  (.rest "GET" [.literal "cities", .literal "paris"] [], "paris"),
  (.rest "GET" [.literal "cities"] [], "list")]

/-- A request for a city. -/
def paris : Http.Request where
  method := "GET"
  uri := { path := "/cities/paris" }

theorem find_citiesMoved : Reorders citiesMoved cities ∧
    (ofList .restJson1 citiesMoved).find paris = (ofList .restJson1 cities).find paris ∧
    (ofList .restJson1 cities).find paris = .ok "get" := by
  have hmoved : Reorders citiesMoved cities := by
    refine ⟨by decide, fun rank => ?_⟩
    match rank with
    | 0 | 1 | 2 => rfl
    | _ + 3 => simp [citiesMoved, cities, RequestSpec.rank]
  exact ⟨hmoved, (find_ofList .restJson1 cities paris).2.2.2.1 _ hmoved, by cbv⟩

end Router

end SdkForge.Server
