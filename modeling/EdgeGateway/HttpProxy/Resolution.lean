import EdgeGateway.HttpProxy.Routes
import EdgeGateway.Library.Paths

/-!
# Resolution of HTTP routes

A request gets the exact route of its host and path, or else the longest segment prefix.  Which
route that is depends on the enabled specs only, not on their order.
-/

namespace EdgeGateway.HttpProxy

open Http Paths Results Routing

variable {parseUri : UriParser} {directory : List Char} {reserved : List (String × String)}
  {specs : List FileHttpRouteConfig} {table : HttpRouteTable}

/-! ## Enabled routes -/

/-- An enabled spec of the list compiles to the route. -/
def Enables (parseUri : UriParser) (directory : List Char) (reserved : List (String × String))
    (specs : List FileHttpRouteConfig) (route : HttpRoute) : Prop :=
  ∃ spec ∈ specs, spec.enabled = true ∧
    spec.Compiles parseUri directory reserved route.host route

/-- The key under which a table has a route. -/
def HttpRoute.key (route : HttpRoute) : HttpKey :=
  (route.host, route.path, route.pathMatch)

theorem HttpRoute.key_eq {route : HttpRoute} {host path : String} {pathMatch : PathMatch} :
    route.key = (host, path, pathMatch) ↔
      route.host = host ∧ route.path = path ∧ route.pathMatch = pathMatch := by
  simp only [key, Prod.mk.injEq]

namespace FileHttpRouteConfig.Compiles

variable {spec : FileHttpRouteConfig} {host other_host : String} {route other_route : HttpRoute}

theorem host_eq (compiles : spec.Compiles parseUri directory reserved host route) :
    route.host = host := by
  obtain ⟨upstream, _, rfl⟩ := compiles.compiled
  rfl

theorem key_eq (compiles : spec.Compiles parseUri directory reserved host route) :
    route.key = spec.key host := by
  obtain ⟨upstream, _, rfl⟩ := compiles.compiled
  rfl

theorem path_eq (compiles : spec.Compiles parseUri directory reserved host route) :
    route.path = spec.path := by
  obtain ⟨upstream, _, rfl⟩ := compiles.compiled
  rfl

/-- A spec compiles to one route. -/
theorem unique (compiles : spec.Compiles parseUri directory reserved host route)
    (other : spec.Compiles parseUri directory reserved other_host other_route) :
    host = other_host ∧ route = other_route := by
  have same_host : host = other_host :=
    Except.ok.inj (compiles.normalized.symm.trans other.normalized)
  obtain ⟨upstream, validated, rfl⟩ := compiles.compiled
  obtain ⟨other_upstream, other_validated, rfl⟩ := other.compiled
  have same_upstream : upstream = other_upstream :=
    Except.ok.inj (validated.symm.trans other_validated)
  subst same_host same_upstream
  exact ⟨rfl, rfl⟩

end FileHttpRouteConfig.Compiles

/-- A table finds the enabled routes under their keys. -/
theorem HttpRouteTable.find_eq_some
    (built : build parseUri specs directory reserved = .ok table) {key : HttpKey}
    {route : HttpRoute} :
    table.find key = some route ↔
      Enables parseUri directory reserved specs route ∧ key = route.key := by
  have resolves := resolves_of_build built
  constructor
  · intro found
    obtain ⟨spec, member, host, enabled, compiles, rfl⟩ := resolves.origin key route found
    refine ⟨⟨spec, member, enabled, ?_⟩, compiles.key_eq.symm⟩
    rw [compiles.host_eq]
    exact compiles
  · rintro ⟨⟨spec, member, enabled, compiles⟩, rfl⟩
    obtain ⟨host, other, other_compiles, found⟩ := resolves.present spec member
    obtain ⟨rfl, rfl⟩ := other_compiles.unique compiles
    rw [compiles.key_eq]
    exact found enabled

/-- Enabled routes with the same key are the same. -/
theorem Enables.eq_of_key
    (built : HttpRouteTable.build parseUri specs directory reserved = .ok table)
    {route other : HttpRoute} (enabled : Enables parseUri directory reserved specs route)
    (other_enabled : Enables parseUri directory reserved specs other)
    (same : route.key = other.key) : route = other := by
  have found := (HttpRouteTable.find_eq_some built).mpr ⟨enabled, rfl⟩
  have other_found := (HttpRouteTable.find_eq_some built).mpr ⟨other_enabled, same⟩
  exact Option.some.inj (found.symm.trans other_found)

theorem Enables.admitted {route : HttpRoute}
    (enabled : Enables parseUri directory reserved specs route) :
    validateHttpPath route.path = .ok () := by
  obtain ⟨spec, _, _, compiles⟩ := enabled
  rw [compiles.path_eq]
  exact compiles.admitted

theorem Enables.rooted {route : HttpRoute}
    (enabled : Enables parseUri directory reserved specs route) :
    route.path.toList.head? = some '/' :=
  rooted_of_validateHttpPath enabled.admitted

/-! ## The route of a request -/

/-- The path of the route is that of the request, or it ends where a segment of that path does. -/
def HttpRoute.Covers (route : HttpRoute) (path : String) : Prop :=
  route.path = "/" ∨ path = route.path ∨ (route.path ++ "/").toList <+: path.toList

/-- The route is the exact one of a host and a path. -/
def HttpRoute.IsExact (route : HttpRoute) (host path : String) : Prop :=
  route.host = host ∧ route.pathMatch = .exact ∧ route.path = path

/-- The route is a segment prefix of a path on a host. -/
def HttpRoute.IsAbove (route : HttpRoute) (host path : String) : Prop :=
  route.host = host ∧ route.pathMatch = .prefixed ∧ route.Covers path

/-- The route that a request gets among the enabled ones. -/
inductive Wins (enabled : HttpRoute → Prop) (host path : String) (route : HttpRoute) : Prop
  | exact (own : enabled route) (equal : route.IsExact host path)
  | longest (own : enabled route) (covering : route.IsAbove host path)
      (inexact : ∀ other, enabled other → ¬other.IsExact host path)
      (longest : ∀ other, enabled other → other.IsAbove host path →
        other.path.length ≤ route.path.length)

/-- The paths that a lookup tries, the longest first. -/
def candidates (path : String) : List (List Char) :=
  path.toList :: ancestors path.toList.reverse

theorem candidates_pairwise (path : String) :
    (candidates path).Pairwise fun above further => further.length ≤ above.length := by
  refine List.pairwise_cons.mpr ⟨fun further member => ?_, ancestors_pairwise _⟩
  have shorter := length_le_of_mem_ancestors member
  rwa [List.length_reverse] at shorter

/-- The candidates of a rooted path are the paths that cover it. -/
theorem HttpRoute.mem_candidates {route : HttpRoute} {path : String}
    (rooted : path.toList.head? = some '/') (route_rooted : route.path.toList.head? = some '/') :
    route.path.toList ∈ candidates path ↔ route.Covers path := by
  have nonempty : route.path.toList ≠ [] := by
    intro empty
    rw [empty] at route_rooted
    cases route_rooted
  have last : path.toList.reverse.getLast? = some '/' := by
    rw [List.getLast?_reverse, rooted]
  have root_text : route.path.toList = ['/'] ↔ route.path = "/" := @String.toList_inj route.path "/"
  rw [candidates, List.mem_cons, mem_ancestors, List.reverse_reverse, root_text, Covers,
    String.toList_append, String.toList_inj, eq_comm]
  simp only [last, nonempty, and_true, not_false_eq_true, true_and, ne_eq]
  tauto

/-- A path that covers a rooted path is a beginning of it. -/
theorem HttpRoute.Covers.isPrefix {route : HttpRoute} {path : String} (covers : route.Covers path)
    (rooted : path.toList.head? = some '/') : route.path.toList <+: path.toList := by
  rcases covers with root | rfl | start
  · obtain ⟨rest, split⟩ := List.head?_eq_some_iff.mp rooted
    rw [root, split]
    exact ⟨rest, rfl⟩
  · exact List.prefix_rfl
  · rw [String.toList_append] at start
    exact (List.prefix_append _ _).trans start

/-! ## Resolution -/

theorem resolveParent_eq (prefixes : Table String HttpRoute) (characters : List Char) :
    resolveParent prefixes characters =
      (ancestors characters).findSome? fun above => prefixes.lookup (String.ofList above) := by
  induction characters with
  | nil => rfl
  | cons character rest ih =>
      rw [resolveParent, ancestors]
      split_ifs with slash root
      · simp only [List.findSome?_cons, List.findSome?_nil]
        cases prefixes.lookup "/" with
        | none => rfl
        | some route => rfl
      · rw [List.findSome?_cons, ih]
        cases prefixes.lookup (String.ofList rest.reverse) with
        | none => rfl
        | some route => rfl
      · exact ih

/-- Resolution tries the exact key and then the prefixes of all candidates. -/
theorem HttpRouteTable.resolve_eq (table : HttpRouteTable) (host path : String) :
    table.resolve host path =
      match table.find (host, path, .exact) with
      | some route => some route
      | none => (candidates path).findSome? fun above =>
          table.find (host, String.ofList above, .prefixed) := by
  cases present : table.byHost.lookup host with
  | none =>
      have absent (path : String) (pathMatch : PathMatch) :
          table.find (host, path, pathMatch) = none := by
        rw [find, findRoute, present, Option.bind_none]
      simp only [resolve, present, absent, Option.bind_none]
      exact (List.findSome?_eq_none_iff.mpr fun _ _ => rfl).symm
  | some routes =>
      have inside (path : String) (pathMatch : PathMatch) :
          table.find (host, path, pathMatch) = (routes.of pathMatch).lookup path := by
        rw [find, findRoute, present, Option.bind_some]
      simp only [resolve, present, inside, Option.bind_some, HostRoutes.of]
      cases routes.exact.lookup path with
      | some route => rfl
      | none =>
          rw [candidates, List.findSome?_cons, String.ofList_toList, resolveParent_eq]
          cases routes.prefixes.lookup path with
          | none => rfl
          | some route => rfl

section Built

variable (built : HttpRouteTable.build parseUri specs directory reserved = .ok table)
  {host path : String} (rooted : path.toList.head? = some '/')

include built

theorem HttpRouteTable.find_exact_eq_none :
    table.find (host, path, .exact) = none ↔
      ∀ other, Enables parseUri directory reserved specs other → ¬other.IsExact host path := by
  rw [Option.eq_none_iff_forall_not_mem]
  constructor
  · rintro absent other enabled ⟨rfl, exact, rfl⟩
    exact absent other ((find_eq_some built).mpr ⟨enabled, by rw [HttpRoute.key, exact]⟩)
  · intro absent route found
    obtain ⟨enabled, same⟩ := (find_eq_some built).mp found
    obtain ⟨same_host, same_path, same_match⟩ := HttpRoute.key_eq.mp same.symm
    exact absent route enabled ⟨same_host, same_match, same_path⟩

include rooted

theorem HttpRouteTable.find_of_isAbove {route : HttpRoute}
    (enabled : Enables parseUri directory reserved specs route) (above : route.IsAbove host path) :
    route.path.toList ∈ candidates path ∧
      table.find (host, String.ofList route.path.toList, .prefixed) = some route := by
  obtain ⟨rfl, prefixed, covers⟩ := above
  refine ⟨(HttpRoute.mem_candidates rooted enabled.rooted).mpr covers, ?_⟩
  rw [String.ofList_toList]
  exact (find_eq_some built).mpr ⟨enabled, (HttpRoute.key_eq.mpr ⟨rfl, rfl, prefixed⟩).symm⟩

/-- Resolution finds a winning route. -/
theorem HttpRouteTable.wins_of_resolve {route : HttpRoute}
    (resolved : table.resolve host path = some route) :
    Wins (Enables parseUri directory reserved specs) host path route := by
  rw [resolve_eq] at resolved
  cases exact : table.find (host, path, .exact) with
  | some winner =>
      rw [exact] at resolved
      cases resolved
      obtain ⟨enabled, same⟩ := (find_eq_some built).mp exact
      obtain ⟨same_host, same_path, same_match⟩ := HttpRoute.key_eq.mp same.symm
      exact .exact enabled ⟨same_host, same_match, same_path⟩
  | none =>
      rw [exact] at resolved
      obtain ⟨longer, above, further, split, found, absent⟩ :=
        List.findSome?_eq_some_iff.mp resolved
      obtain ⟨enabled, same⟩ := (find_eq_some built).mp found
      obtain ⟨same_host, same_path, same_match⟩ := HttpRoute.key_eq.mp same.symm
      have above_eq : above = route.path.toList := by rw [same_path, String.toList_ofList]
      have member : route.path.toList ∈ candidates path := by
        rw [split, ← above_eq]
        exact List.mem_append_right _ List.mem_cons_self
      refine .longest enabled
        ⟨same_host, same_match, (HttpRoute.mem_candidates rooted enabled.rooted).mp member⟩
        ((find_exact_eq_none built).mp exact) ?_
      intro other other_enabled other_above
      obtain ⟨other_member, other_found⟩ := find_of_isAbove built rooted other_enabled other_above
      rw [split, List.mem_append, List.mem_cons] at other_member
      rw [← String.length_toList, ← String.length_toList, ← above_eq]
      -- A longer candidate has no route, so the other one is this one or comes later.
      rcases other_member with before | same_above | behind
      · rw [absent _ before] at other_found
        cases other_found
      · rw [same_above]
      · have sorted := candidates_pairwise path
        rw [split, List.pairwise_append] at sorted
        exact (List.pairwise_cons.mp sorted.2.1).1 _ behind

/-- Resolution finds nothing when no route is exact or above the path. -/
theorem HttpRouteTable.resolve_eq_none :
    table.resolve host path = none ↔
      ∀ route, Enables parseUri directory reserved specs route →
        ¬route.IsExact host path ∧ ¬route.IsAbove host path := by
  constructor
  · intro unresolved route enabled
    rw [resolve_eq] at unresolved
    cases exact : table.find (host, path, .exact) with
    | some winner =>
        rw [exact] at unresolved
        cases unresolved
    | none =>
        rw [exact] at unresolved
        refine ⟨(find_exact_eq_none built).mp exact route enabled, fun above => ?_⟩
        obtain ⟨member, found⟩ := find_of_isAbove built rooted enabled above
        rw [List.findSome?_eq_none_iff.mp unresolved _ member] at found
        cases found
  · intro unmatched
    cases resolved : table.resolve host path with
    | none => rfl
    | some route =>
        cases wins_of_resolve built rooted resolved with
        | exact own equal => exact absurd equal (unmatched route own).1
        | longest own covering _ _ => exact absurd covering (unmatched route own).2

/-- At most one route wins. -/
theorem Wins.unique {route other : HttpRoute}
    (wins : Wins (Enables parseUri directory reserved specs) host path route)
    (other_wins : Wins (Enables parseUri directory reserved specs) host path other) :
    route = other := by
  cases wins with
  | exact own equal =>
      cases other_wins with
      | exact other_own other_equal =>
          obtain ⟨rfl, exact, rfl⟩ := equal
          obtain ⟨same_host, other_exact, same_path⟩ := other_equal
          apply own.eq_of_key built other_own
          exact (HttpRoute.key_eq.mpr ⟨same_host, same_path, other_exact.trans exact.symm⟩).symm
      | longest _ _ inexact _ => exact absurd equal (inexact route own)
  | longest own covering inexact longest =>
      cases other_wins with
      | exact other_own other_equal => exact absurd other_equal (inexact other other_own)
      | longest other_own other_covering _ other_longest =>
          have same_length : route.path.toList.length = other.path.toList.length := by
            rw [String.length_toList, String.length_toList]
            exact Nat.le_antisymm (other_longest route own covering)
              (longest other other_own other_covering)
          obtain ⟨rfl, prefixed, covers⟩ := covering
          obtain ⟨same_host, other_prefixed, other_covers⟩ := other_covering
          have same_path : route.path.toList = other.path.toList :=
            (List.prefix_of_prefix_length_le (covers.isPrefix rooted) (other_covers.isPrefix rooted)
              same_length.le).eq_of_length same_length
          apply own.eq_of_key built other_own
          exact (HttpRoute.key_eq.mpr ⟨same_host, (String.toList_inj.mp same_path).symm,
            other_prefixed.trans prefixed.symm⟩).symm

theorem HttpRouteTable.resolve_eq_some {route : HttpRoute} :
    table.resolve host path = some route ↔
      Wins (Enables parseUri directory reserved specs) host path route := by
  constructor
  · exact wins_of_resolve built rooted
  · intro wins
    cases resolved : table.resolve host path with
    | none =>
        have unmatched := (resolve_eq_none built rooted).mp resolved route
        cases wins with
        | exact own equal => exact absurd equal (unmatched own).1
        | longest own covering _ _ => exact absurd covering (unmatched own).2
    | some winner =>
        rw [Option.some_inj]
        exact (wins_of_resolve built rooted resolved).unique built rooted wins

end Built

/-! ## Order of the specs -/

/-- Neither of two specs takes the id or the key of the other. -/
def FileHttpRouteConfig.Compatible (spec other : FileHttpRouteConfig) : Prop :=
  spec.id ≠ other.id ∧ ∀ host other_host, normalizeDnsHost spec.host = .ok host →
    normalizeDnsHost other.host = .ok other_host → spec.key host ≠ other.key other_host

theorem FileHttpRouteConfig.Compatible.symm {spec other : FileHttpRouteConfig}
    (compatible : spec.Compatible other) : other.Compatible spec :=
  ⟨compatible.1.symm, fun host other_host normalized other_normalized =>
    (compatible.2 other_host host other_normalized normalized).symm⟩

/-- A spec passes its own checks and takes neither an id nor a key of those before it. -/
def HttpBuilding.Admits (parseUri : UriParser) (directory : List Char)
    (reserved : List (String × String)) (building : HttpBuilding) (spec : FileHttpRouteConfig) :
    Prop :=
  ∃ host route, spec.id ∉ building.ids ∧ spec.Accepted parseUri directory reserved host route ∧
    spec.key host ∉ building.keys

theorem HttpBuilding.put_keys (building : HttpBuilding) (id : String) (key : HttpKey)
    (route : Option HttpRoute) : (building.put id key route).keys = key :: building.keys := by
  cases route with
  | none => rfl
  | some route => rfl

/-- After a spec is taken up, those that are compatible with it are still admitted. -/
theorem HttpBuilding.admits_put {building : HttpBuilding} {spec other : FileHttpRouteConfig}
    {host : String} {route : HttpRoute}
    (accepted : spec.Accepted parseUri directory reserved host route) :
    (building.put spec.id (spec.key host) (spec.entry route)).Admits parseUri directory reserved
        other ↔
      building.Admits parseUri directory reserved other ∧ spec.Compatible other := by
  simp only [Admits, put_ids, put_keys, List.mem_cons, not_or]
  constructor
  · rintro ⟨other_host, other_route, ⟨new_id, id_free⟩, other_accepted, new_key, key_free⟩
    refine ⟨⟨other_host, other_route, id_free, other_accepted, key_free⟩, Ne.symm new_id, ?_⟩
    intro spec_host other_spec_host normalized other_normalized
    obtain rfl := Except.ok.inj (accepted.normalized.symm.trans normalized)
    obtain rfl := Except.ok.inj (other_accepted.normalized.symm.trans other_normalized)
    exact Ne.symm new_key
  · rintro ⟨⟨other_host, other_route, id_free, other_accepted, key_free⟩, new_id, new_key⟩
    exact ⟨other_host, other_route, ⟨new_id.symm, id_free⟩, other_accepted,
      (new_key _ _ accepted.normalized other_accepted.normalized).symm, key_free⟩

/-- The loop accepts specs that are admitted at its start and compatible with each other. -/
theorem HttpBuilding.exists_loop_iff (specs : List FileHttpRouteConfig) (start : HttpBuilding) :
    (∃ building, specs.foldlM (add parseUri directory reserved) start = .ok building) ↔
      (∀ spec ∈ specs, start.Admits parseUri directory reserved spec) ∧
        specs.Pairwise FileHttpRouteConfig.Compatible := by
  induction specs generalizing start with
  | nil => simp [pure, Except.pure]
  | cons spec specs ih =>
      simp only [List.foldlM_cons, bind_eq_ok, List.forall_mem_cons, List.pairwise_cons]
      constructor
      · rintro ⟨building, middle, added, loop⟩
        obtain ⟨host, route, id_free, accepted, key_free, rfl⟩ := add_eq_ok.mp added
        obtain ⟨admitted, compatible⟩ := (ih _).mp ⟨building, loop⟩
        have both (other : FileHttpRouteConfig) (member : other ∈ specs) :=
          (admits_put accepted).mp (admitted other member)
        exact ⟨⟨⟨host, route, id_free, accepted, key_free⟩,
            fun other member => (both other member).1⟩,
          fun other member => (both other member).2, compatible⟩
      · rintro ⟨⟨⟨host, route, id_free, accepted, key_free⟩, admitted⟩, first, compatible⟩
        have later (other : FileHttpRouteConfig) (member : other ∈ specs) :=
          (admits_put accepted).mpr ⟨admitted other member, first other member⟩
        obtain ⟨building, loop⟩ := (ih _).mpr ⟨later, compatible⟩
        exact ⟨building, _, add_eq_ok.mpr ⟨host, route, id_free, accepted, key_free, rfl⟩, loop⟩

/-- Acceptance does not depend on the order of the specs. -/
theorem HttpRouteTable.exists_build_of_perm {others : List FileHttpRouteConfig}
    (built : build parseUri specs directory reserved = .ok table) (same : specs.Perm others) :
    ∃ other_table, build parseUri others directory reserved = .ok other_table := by
  obtain ⟨few, building, loop, rfl⟩ := build_eq_ok.mp built
  obtain ⟨admitted, compatible⟩ := (HttpBuilding.exists_loop_iff specs .empty).mp ⟨building, loop⟩
  have other_admitted (spec : FileHttpRouteConfig) (member : spec ∈ others) :=
    admitted spec (same.mem_iff.mpr member)
  have other_compatible : others.Pairwise FileHttpRouteConfig.Compatible :=
    (same.pairwise_iff fun compatible => compatible.symm).mp compatible
  obtain ⟨other, other_loop⟩ :=
    (HttpBuilding.exists_loop_iff others .empty).mpr ⟨other_admitted, other_compatible⟩
  exact ⟨_, build_eq_ok.mpr ⟨same.length_eq ▸ few, other, other_loop, rfl⟩⟩

theorem Enables.perm {others : List FileHttpRouteConfig} (same : specs.Perm others) :
    Enables parseUri directory reserved specs = Enables parseUri directory reserved others := by
  funext route
  simp only [Enables, same.mem_iff]

/-! ## The number of routes -/

/-- Number of routes of one host. -/
def HostRoutes.size (routes : HostRoutes) : Nat :=
  routes.exact.size + routes.prefixes.size

/-- Number of routes of all hosts. -/
def routeCount (byHost : Table String HostRoutes) : Nat :=
  (byHost.entries.map fun entry => entry.2.size).sum

theorem HttpRouteTable.length_enabledRoutes (table : HttpRouteTable) :
    table.enabledRoutes.length = routeCount table.byHost := by
  rw [enabledRoutes, routeCount, List.length_flatMap]
  congr 1
  apply List.map_congr_left
  intro entry _
  rw [List.length_append, List.length_map, List.length_map]
  rfl

theorem HostRoutes.size_insert {routes : HostRoutes} {pathMatch : PathMatch} {path : String}
    (route : HttpRoute) (fresh : (routes.of pathMatch).lookup path = none) :
    (routes.insert pathMatch path route).size = routes.size + 1 := by
  cases pathMatch with
  | exact =>
      have added := Table.size_insert_of_notMem route (AList.lookup_eq_none.mp fresh)
      simp only [size, insert]
      simp only [of] at added
      omega
  | prefixed =>
      have added := Table.size_insert_of_notMem route (AList.lookup_eq_none.mp fresh)
      simp only [size, insert]
      simp only [of] at added
      omega

/-- A route under a new key overwrites nothing. -/
theorem routeCount_insertRoute {byHost : Table String HostRoutes} {key : HttpKey}
    (route : HttpRoute) (fresh : findRoute byHost key = none) :
    routeCount (insertRoute byHost key route) = routeCount byHost + 1 := by
  have weights := Table.sum_insert HostRoutes.size byHost key.1
    (((byHost.lookup key.1).getD ⟨∅, ∅⟩).insert key.2.2 key.2.1 route)
  rw [← insertRoute] at weights
  change routeCount _ + _ = routeCount _ + _ at weights
  rw [findRoute] at fresh
  cases present : byHost.lookup key.1 with
  | none =>
      rw [present, Option.getD_none, Option.elim_none, HostRoutes.size_insert route (by
        cases key.2.2 with
        | exact => rfl
        | prefixed => rfl)] at weights
      exact weights
  | some routes =>
      rw [present, Option.bind_some] at fresh
      rw [present, Option.getD_some, Option.elim_some,
        HostRoutes.size_insert route fresh] at weights
      omega

/-- While a table is built, it has as many routes as were enabled. -/
theorem HttpBuilding.routeCount_of_loop {building : HttpBuilding}
    (loop : specs.foldlM (add parseUri directory reserved) .empty = .ok building) :
    routeCount building.byHost = building.enabledCount := by
  refine foldlM_preserves (fun state => routeCount state.byHost = state.enabledCount) ?_ rfl loop
  intro state spec next counted added
  obtain ⟨host, route, _, _, fresh, rfl⟩ := add_eq_ok.mp added
  cases entered : spec.entry route with
  | none => exact counted
  | some entry =>
      change routeCount (insertRoute state.byHost (spec.key host) entry) = state.enabledCount + 1
      rw [routeCount_insertRoute entry (state.indexed _ fresh), counted]

theorem HttpBuilding.enabledCount_of_loop {start building : HttpBuilding}
    (loop : specs.foldlM (add parseUri directory reserved) start = .ok building) :
    building.enabledCount = start.enabledCount + specs.countP (·.enabled) := by
  induction specs generalizing start with
  | nil =>
      cases loop
      rfl
  | cons spec specs ih =>
      rw [List.foldlM_cons, bind_eq_ok] at loop
      obtain ⟨middle, added, rest⟩ := loop
      obtain ⟨host, route, _, _, _, rfl⟩ := add_eq_ok.mp added
      rw [ih rest, List.countP_cons, FileHttpRouteConfig.entry]
      split_ifs with enabled
      · change start.enabledCount + 1 + _ = _
        omega
      · rfl

/-! ## The result -/

/-- A path is resolved to the exact route of its host, or else to the longest segment prefix; the
order of the specs does not matter, and no enabled route is lost. -/
theorem HttpRouteTable.resolve_exact_or_longest
    (built : build parseUri specs directory reserved = .ok table) (host path : String)
    (accepted : validateHttpPath path = .ok ()) :
    (∀ route, table.resolve host path = some route ↔
      Wins (Enables parseUri directory reserved specs) host path route) ∧
    (table.resolve host path = none ↔
      ∀ route, Enables parseUri directory reserved specs route →
        ¬route.IsExact host path ∧ ¬route.IsAbove host path) ∧
    (∀ others, specs.Perm others → ∃ other_table,
      build parseUri others directory reserved = .ok other_table ∧
      other_table.resolve host path = table.resolve host path) ∧
    (∀ route, route ∈ table.enabledRoutes ↔ Enables parseUri directory reserved specs route) ∧
    table.enabledRoutes.length = table.enabledCount ∧
    table.enabledCount = specs.countP (·.enabled) := by
  have rooted := rooted_of_validateHttpPath accepted
  refine ⟨fun route => resolve_eq_some built rooted, resolve_eq_none built rooted, ?_, ?_, ?_, ?_⟩
  · intro others same
    obtain ⟨other_table, other_built⟩ := exists_build_of_perm built same
    refine ⟨other_table, other_built, Option.ext fun route => ?_⟩
    rw [resolve_eq_some other_built rooted, resolve_eq_some built rooted, Enables.perm same]
  · intro route
    rw [mem_enabledRoutes]
    constructor
    · rintro ⟨key, found⟩
      exact ((find_eq_some built).mp found).1
    · exact fun enabled => ⟨route.key, (find_eq_some built).mpr ⟨enabled, rfl⟩⟩
  · obtain ⟨_, building, loop, rfl⟩ := build_eq_ok.mp built
    rw [length_enabledRoutes]
    exact HttpBuilding.routeCount_of_loop loop
  · obtain ⟨_, building, loop, rfl⟩ := build_eq_ok.mp built
    have counted := HttpBuilding.enabledCount_of_loop loop
    rwa [show HttpBuilding.empty.enabledCount = 0 from rfl, Nat.zero_add] at counted

/-- The upstream address of a small table. -/
def sampleOrigin : UriParser
  | "http://127.0.0.1:9003" =>
      .ok ⟨some "http", some "127.0.0.1:9003", some "127.0.0.1", some 9003, some ⟨"/", none⟩⟩
  | _ => .error "invalid uri character"

/-- A prefix and an exact route below it, and a route that is not enabled. -/
def sampleRoutes : List FileHttpRouteConfig :=
  [{ id := "app"
     host := "Example.com."
     path := "/app"
     pathMatch := .prefixed
     rewrite := .stripPrefix
     upstream := { endpoint := "http://127.0.0.1:9003" } },
   { id := "login"
     host := "example.com"
     path := "/app/login"
     security := ⟨true⟩
     upstream := { endpoint := "http://127.0.0.1:9003" } },
   { id := "old"
     host := "example.com"
     path := "/"
     pathMatch := .prefixed
     enabled := false
     upstream := { endpoint := "http://127.0.0.1:9003" } }]

theorem HttpRouteTable.resolve_exact_or_longest_sample :
    ∃ table, build sampleOrigin sampleRoutes [] [] = .ok table ∧
      (∃ route, table.resolve "example.com" "/app/x" = some route ∧
        Wins (Enables sampleOrigin [] [] sampleRoutes) "example.com" "/app/x" route) ∧
      table.enabledCount = 2 := by
  obtain ⟨table, built, resolved⟩ := map_eq_ok.mp
    (show (build sampleOrigin sampleRoutes [] []).map
      (fun table => (table.resolve "example.com" "/app/x").isSome) = .ok true by decide +kernel)
  obtain ⟨route, found⟩ := Option.isSome_iff_exists.mp resolved
  have result := resolve_exact_or_longest built "example.com" "/app/x" (by decide +kernel)
  exact ⟨table, built, ⟨route, found, (result.1 route).mp found⟩, result.2.2.2.2.2⟩

end EdgeGateway.HttpProxy
