import EdgeGateway.HttpProxy.PathSyntax
import EdgeGateway.HttpProxy.Upstream
import EdgeGateway.Library.KeyedIndex
import EdgeGateway.Routes.ExactTable

/-!
# HTTP routes

An HTTP route matches one path exactly, or a path and everything below it.  An exact route wins
over the prefixes, and of these the longest one wins.
-/

namespace EdgeGateway.HttpProxy

open Http Results Routes Routing Security

/-! ## Routes -/

/-- How the path of a route is compared with that of a request. -/
inductive PathMatch
  | exact
  | prefixed
deriving DecidableEq, Repr

/-- What happens to the matched part of a path. -/
inductive Rewrite
  | preserve
  | stripPrefix
  | replacePrefix
deriving DecidableEq, Repr

/-- A configured HTTP route. -/
structure FileHttpRouteConfig where
  id : String
  host : String
  path : String
  pathMatch : PathMatch := .exact
  rewrite : Rewrite := .preserve
  replacementPrefix : Option String := none
  enabled : Bool := true
  security : RouteSecurity := ⟨false⟩
  upstream : FileUpstreamConfig
deriving DecidableEq

/-- An HTTP route. -/
structure HttpRoute where
  id : String
  host : String
  path : String
  pathMatch : PathMatch
  rewrite : Rewrite
  replacementPrefix : Option String
  security : RouteSecurity
  upstream : UpstreamConfig
deriving DecidableEq

/-- The rest of a text behind its beginning. -/
def stripText (start text : List Char) : Option (List Char) :=
  if start <+: text then some (text.drop start.length) else none

/-- The path that a route asks its upstream for. -/
def HttpRoute.rewritePath (route : HttpRoute) (path : String) : Except String String :=
  if route.rewrite = .preserve then .ok path
  else
    match stripText route.path.toList path.toList with
    | none => .error "route does not match"
    | some rest =>
        let start := if route.rewrite = .replacePrefix then route.replacementPrefix.getD "" else ""
        let result := start.toList ++ rest
        .ok (if result = [] then "/" else String.ofList result)

/-- The target that a route asks its upstream for. -/
def HttpRoute.rewriteTarget (route : HttpRoute) (uri : Uri) : Except String String := do
  validateHttpPath uri.path
  let path ← route.rewritePath uri.path
  match uri.query with
  | some query => return path ++ "?" ++ query
  | none => return path

/-! ## Tables -/

/-- The routes of one host. -/
structure HostRoutes where
  exact : Table String HttpRoute
  prefixes : Table String HttpRoute

/-- The routes of one host with the same kind of match. -/
def HostRoutes.of (routes : HostRoutes) : PathMatch → Table String HttpRoute
  | .exact => routes.exact
  | .prefixed => routes.prefixes

/-- Put a route among the others of its kind. -/
def HostRoutes.insert (routes : HostRoutes) (pathMatch : PathMatch) (path : String)
    (route : HttpRoute) : HostRoutes :=
  match pathMatch with
  | .exact => { routes with exact := routes.exact.insert path route }
  | .prefixed => { routes with prefixes := routes.prefixes.insert path route }

/-- What distinguishes routes: the host, the path and the kind of match. -/
abbrev HttpKey := String × String × PathMatch

/-- The route under a key. -/
def findRoute (byHost : Table String HostRoutes) (key : HttpKey) : Option HttpRoute :=
  (byHost.lookup key.1).bind fun routes => (routes.of key.2.2).lookup key.2.1

/-- Put a route under a key. -/
def insertRoute (byHost : Table String HostRoutes) (key : HttpKey) (route : HttpRoute) :
    Table String HostRoutes :=
  byHost.insert key.1
    (((byHost.lookup key.1).getD ⟨∅, ∅⟩).insert key.2.2 key.2.1 route)

/-- The table of HTTP routes. -/
structure HttpRouteTable where
  byHost : Table String HostRoutes
  configuredCount : Nat
  enabledCount : Nat

/-- The route of the longest beginning of a path that ends before one of its slashes; the path is
given backwards. -/
def resolveParent (prefixes : Table String HttpRoute) : List Char → Option HttpRoute
  | [] => none
  | character :: rest =>
      if character = '/' then
        -- The first slash of a path stands for the root.
        if rest = [] then prefixes.lookup "/"
        else
          match prefixes.lookup (String.ofList rest.reverse) with
          | some route => some route
          | none => resolveParent prefixes rest
      else
        resolveParent prefixes rest

/-- The route of a host and a path. -/
def HttpRouteTable.resolve (table : HttpRouteTable) (host path : String) : Option HttpRoute :=
  (table.byHost.lookup host).bind fun routes =>
    match routes.exact.lookup path with
    | some route => some route
    | none =>
        match routes.prefixes.lookup path with
        | some route => some route
        | none => resolveParent routes.prefixes path.toList.reverse

/-- The hosts that have routes. -/
def HttpRouteTable.hosts (table : HttpRouteTable) : List String :=
  table.byHost.keys

/-- All routes of a table. -/
def HttpRouteTable.enabledRoutes (table : HttpRouteTable) : List HttpRoute :=
  table.byHost.entries.flatMap fun entry =>
    entry.2.exact.entries.map (·.2) ++ entry.2.prefixes.entries.map (·.2)

/-! ## Building a table -/

/-- Paths that the gateway answers itself. -/
def isHealthPath (path : String) : Bool :=
  path == "/health/live" || path == "/health/ready"

/-- The path ends in a slash. -/
def endsInSlash (path : String) : Bool :=
  path.toList.getLast? == some '/'

/-- Check what a spec does with the matched part of a path. -/
def checkRewrite (spec : FileHttpRouteConfig) : Except String Unit := do
  ensure (¬(spec.rewrite = .stripPrefix ∧ (spec.pathMatch ≠ .prefixed ∨ spec.path = "/")))
    "strip_prefix requires a non-root segment prefix match"
  match spec.rewrite, spec.replacementPrefix with
  | .replacePrefix, some replacement =>
      validateHttpPath replacement
      ensure (¬(endsInSlash replacement = true ∧
          ¬(replacement = "/" ∧ spec.pathMatch = .exact)))
        "replacement_prefix must not end in slash (except exact replacement /)"
      ensure (¬(spec.path = "/" ∧ spec.pathMatch = .prefixed))
        "replace_prefix of / is ambiguous; use preserve or a non-root prefix"
  | .replacePrefix, none => .error "replace_prefix requires replacement_prefix"
  | _, some _ => .error "replacement_prefix is only valid with replace_prefix"
  | _, none => .ok ()

/-- A table while it is built; every entry has its key among those seen. -/
structure HttpBuilding where
  ids : List String
  keys : List HttpKey
  byHost : Table String HostRoutes
  enabledCount : Nat
  indexed : ∀ key, key ∉ keys → findRoute byHost key = none

/-- The table before the first spec. -/
def HttpBuilding.empty : HttpBuilding := ⟨[], [], ∅, 0, fun _ _ => rfl⟩

@[simp] theorem HostRoutes.of_insert_same (routes : HostRoutes) (pathMatch : PathMatch)
    (path : String) (route : HttpRoute) :
    (routes.insert pathMatch path route).of pathMatch =
      (routes.of pathMatch).insert path route := by
  cases pathMatch with
  | exact => rfl
  | prefixed => rfl

@[simp] theorem HostRoutes.of_insert_other (routes : HostRoutes) {pathMatch other : PathMatch}
    (path : String) (route : HttpRoute) (distinct : other ≠ pathMatch) :
    (routes.insert pathMatch path route).of other = routes.of other := by
  cases pathMatch with
  | exact =>
      cases other with
      | exact => exact absurd rfl distinct
      | prefixed => rfl
  | prefixed =>
      cases other with
      | exact => rfl
      | prefixed => exact absurd rfl distinct

theorem findRoute_insertRoute_same (byHost : Table String HostRoutes) (key : HttpKey)
    (route : HttpRoute) : findRoute (insertRoute byHost key route) key = some route := by
  rw [findRoute, insertRoute, AList.lookup_insert, Option.bind_some, HostRoutes.of_insert_same,
    AList.lookup_insert]

theorem findRoute_insertRoute_other (byHost : Table String HostRoutes) {key other : HttpKey}
    (route : HttpRoute) (distinct : other ≠ key) :
    findRoute (insertRoute byHost key route) other = findRoute byHost other := by
  obtain ⟨host, path, pathMatch⟩ := key
  obtain ⟨other_host, other_path, other_match⟩ := other
  by_cases same_host : other_host = host
  · subst same_host
    have before : ((byHost.lookup other_host).getD ⟨∅, ∅⟩).of other_match =
        (((byHost.lookup other_host).map fun routes => routes.of other_match).getD ∅) := by
      cases byHost.lookup other_host with
      | none => cases other_match <;> rfl
      | some routes => rfl
    have unchanged : (((byHost.lookup other_host).getD ⟨∅, ∅⟩).of other_match).lookup other_path =
        findRoute byHost (other_host, other_path, other_match) := by
      rw [before, findRoute]
      cases byHost.lookup other_host with
      | none => rfl
      | some routes => rfl
    rw [← unchanged, findRoute, insertRoute, AList.lookup_insert, Option.bind_some]
    by_cases same_match : other_match = pathMatch
    · subst same_match
      have distinct_path : other_path ≠ path := by
        rintro rfl
        exact distinct rfl
      rw [HostRoutes.of_insert_same, AList.lookup_insert_ne distinct_path]
    · rw [HostRoutes.of_insert_other _ _ _ same_match]
  · rw [findRoute, insertRoute, AList.lookup_insert_ne same_host, findRoute]

/-- Take up a checked spec, with its route if it is enabled. -/
def HttpBuilding.put (building : HttpBuilding) (id : String) (key : HttpKey) :
    Option HttpRoute → HttpBuilding
  | none =>
      { ids := id :: building.ids
        keys := key :: building.keys
        byHost := building.byHost
        enabledCount := building.enabledCount
        indexed := fun other unseen =>
          building.indexed other fun member => unseen (List.mem_cons_of_mem _ member) }
  | some route =>
      { ids := id :: building.ids
        keys := key :: building.keys
        byHost := insertRoute building.byHost key route
        enabledCount := building.enabledCount + 1
        indexed := fun other unseen => by
          rw [List.mem_cons, not_or] at unseen
          rw [findRoute_insertRoute_other _ _ unseen.1]
          exact building.indexed other unseen.2 }

/-- What distinguishes a spec under its normalized host. -/
def FileHttpRouteConfig.key (spec : FileHttpRouteConfig) (host : String) : HttpKey :=
  (host, spec.path, spec.pathMatch)

theorem FileHttpRouteConfig.key_eq {spec : FileHttpRouteConfig} {spec_host host path : String}
    {pathMatch : PathMatch} : spec.key spec_host = (host, path, pathMatch) ↔
      spec_host = host ∧ spec.path = path ∧ spec.pathMatch = pathMatch := by
  simp only [key, Prod.mk.injEq]

/-- The route of a spec under its normalized host. -/
def FileHttpRouteConfig.compile (spec : FileHttpRouteConfig) (host : String)
    (upstream : UpstreamConfig) : HttpRoute where
  id := spec.id
  host := host
  path := spec.path
  pathMatch := spec.pathMatch
  rewrite := spec.rewrite
  replacementPrefix := spec.replacementPrefix
  security := spec.security
  upstream := upstream

/-- The route that a spec puts into its table: none unless it is enabled. -/
def FileHttpRouteConfig.entry (spec : FileHttpRouteConfig) (route : HttpRoute) :
    Option HttpRoute :=
  if spec.enabled then some route else none

/-- Check and compile one spec, after those before it; exact routes must not use a reserved pair
of a host and a path. -/
def HttpBuilding.add (parseUri : UriParser) (directory : List Char)
    (reserved : List (String × String)) (building : HttpBuilding) (spec : FileHttpRouteConfig) :
    Except String HttpBuilding := do
  ensure (spec.id.toList ≠ [] ∧ (Utf8.encode spec.id.toList).length ≤ maxRouteIdLength ∧
      hasBlank spec.id.toList = false)
    "http_routes.id must be 1..128 bytes without control/whitespace"
  ensure (spec.id ∉ building.ids) ("duplicate HTTP route id " ++ spec.id)
  let host ← normalizeDnsHost spec.host
  validateHttpPath spec.path
  ensure (isHealthPath spec.path = false) "HTTP route uses a reserved health path"
  ensure (¬(spec.pathMatch = .prefixed ∧ spec.path ≠ "/" ∧ endsInSlash spec.path = true))
    "segment prefixes must not end in slash (except /)"
  ensure (spec.key host ∉ building.keys) ("duplicate HTTP match at " ++ host ++ spec.path)
  ensure (¬(spec.pathMatch = .exact ∧ (host, spec.path) ∈ reserved))
    ("HTTP route at " ++ host ++ spec.path ++ " is shadowed by an explicit WS/gRPC route")
  checkRewrite spec
  let upstream ← (spec.upstream.validate parseUri directory).mapError fun error =>
    "HTTP route " ++ spec.id ++ ": " ++ error
  return building.put spec.id (spec.key host) (spec.entry (spec.compile host upstream))

/-- Build the table of HTTP routes. -/
def HttpRouteTable.build (parseUri : UriParser) (specs : List FileHttpRouteConfig)
    (directory : List Char) (reserved : List (String × String)) : Except String HttpRouteTable := do
  ensure (specs.length ≤ 4096) "http_routes exceeds 4096 entries"
  let building ← specs.foldlM (HttpBuilding.add parseUri directory reserved) .empty
  return ⟨building.byHost, specs.length, building.enabledCount⟩

/-! ## What a table has -/

/-- The spec compiles to the route under the normalized host. -/
structure FileHttpRouteConfig.Compiles (parseUri : UriParser) (directory : List Char)
    (reserved : List (String × String)) (spec : FileHttpRouteConfig) (host : String)
    (route : HttpRoute) : Prop where
  normalized : normalizeDnsHost spec.host = .ok host
  admitted : validateHttpPath spec.path = .ok ()
  unreserved : spec.pathMatch = .exact → (host, spec.path) ∉ reserved
  compiled : ∃ upstream, spec.upstream.validate parseUri directory = .ok upstream ∧
    route = spec.compile host upstream

/-- What a spec passes on its own, whatever the specs before it are. -/
structure FileHttpRouteConfig.Accepted (parseUri : UriParser) (directory : List Char)
    (reserved : List (String × String)) (spec : FileHttpRouteConfig) (host : String)
    (route : HttpRoute) : Prop extends spec.Compiles parseUri directory reserved host route where
  named : spec.id.toList ≠ [] ∧ (Utf8.encode spec.id.toList).length ≤ maxRouteIdLength ∧
    hasBlank spec.id.toList = false
  unhealthy : isHealthPath spec.path = false
  segment : ¬(spec.pathMatch = .prefixed ∧ spec.path ≠ "/" ∧ endsInSlash spec.path = true)
  rewritable : checkRewrite spec = .ok ()

/-- The entry of a spec: its route, if it is enabled. -/
def FileHttpRouteConfig.Entry (parseUri : UriParser) (directory : List Char)
    (reserved : List (String × String)) (spec : FileHttpRouteConfig) (key : HttpKey)
    (value : Option HttpRoute) : Prop :=
  ∃ host route, spec.Compiles parseUri directory reserved host route ∧ key = spec.key host ∧
    value = spec.entry route

/-- What a table that is being built has seen and finds. -/
def HttpBuilding.view : KeyedIndex.View HttpBuilding HttpKey HttpRoute where
  seen := HttpBuilding.keys
  find building := findRoute building.byHost
  unseen := HttpBuilding.indexed

theorem HttpBuilding.adds_put (building : HttpBuilding) (id : String) {key : HttpKey}
    (fresh : key ∉ building.keys) (route : Option HttpRoute) :
    HttpBuilding.view.Adds building (building.put id key route) key route := by
  cases route with
  | none => exact ⟨fresh, rfl, building.indexed key fresh, fun _ _ => rfl⟩
  | some route =>
      exact ⟨fresh, rfl, findRoute_insertRoute_same _ _ _,
        fun _ distinct => findRoute_insertRoute_other _ _ distinct⟩

/-- A spec is taken up when it passes its own checks and neither its id nor its key is taken. -/
theorem HttpBuilding.add_eq_ok {parseUri : UriParser} {directory : List Char}
    {reserved : List (String × String)} {building next : HttpBuilding}
    {spec : FileHttpRouteConfig} :
    building.add parseUri directory reserved spec = .ok next ↔
      ∃ host route, spec.id ∉ building.ids ∧
        spec.Accepted parseUri directory reserved host route ∧ spec.key host ∉ building.keys ∧
        next = building.put spec.id (spec.key host) (spec.entry route) := by
  simp only [add, bind_eq_ok, ensure_eq_ok, mapError_eq_ok, exists_const]
  constructor
  · rintro ⟨named, new_id, host, normalized, _, admitted, unhealthy, segment, new_key, unreserved,
      _, rewritable, upstream, validated, added⟩
    cases added
    refine ⟨host, _, new_id, ⟨⟨normalized, admitted, ?_, upstream, validated, rfl⟩, named,
      unhealthy, segment, rewritable⟩, new_key, rfl⟩
    exact fun exact member => unreserved ⟨exact, member⟩
  · rintro ⟨host, route, new_id, accepted, new_key, rfl⟩
    obtain ⟨upstream, validated, rfl⟩ := accepted.compiled
    exact ⟨accepted.named, new_id, host, accepted.normalized, (), accepted.admitted,
      accepted.unhealthy, accepted.segment, new_key, fun both => accepted.unreserved both.1 both.2,
      (), accepted.rewritable, upstream, validated, rfl⟩

theorem HttpBuilding.add_adds {parseUri : UriParser} {directory : List Char}
    {reserved : List (String × String)} (building : HttpBuilding) (spec : FileHttpRouteConfig)
    (next : HttpBuilding) (added : building.add parseUri directory reserved spec = .ok next) :
    ∃ key value, spec.Entry parseUri directory reserved key value ∧
      HttpBuilding.view.Adds building next key value := by
  obtain ⟨host, route, _, accepted, fresh, rfl⟩ := add_eq_ok.mp added
  exact ⟨_, _, ⟨host, route, accepted.toCompiles, rfl, rfl⟩, building.adds_put _ fresh _⟩

/-- The route under a key of a table. -/
def HttpRouteTable.find (table : HttpRouteTable) (key : HttpKey) : Option HttpRoute :=
  findRoute table.byHost key

/-- What a built table finds: every enabled spec under its key, and nothing else. -/
structure HttpRouteTable.Resolves (parseUri : UriParser) (directory : List Char)
    (reserved : List (String × String)) (specs : List FileHttpRouteConfig)
    (table : HttpRouteTable) : Prop where
  present : ∀ spec ∈ specs, ∃ host route, spec.Compiles parseUri directory reserved host route ∧
    (spec.enabled = true → table.find (spec.key host) = some route)
  origin : ∀ key route, table.find key = some route → ∃ spec ∈ specs, ∃ host,
    spec.enabled = true ∧ spec.Compiles parseUri directory reserved host route ∧
      key = spec.key host

theorem HttpRouteTable.build_eq_ok {parseUri : UriParser} {specs : List FileHttpRouteConfig}
    {directory : List Char} {reserved : List (String × String)} {table : HttpRouteTable} :
    build parseUri specs directory reserved = .ok table ↔
      specs.length ≤ 4096 ∧ ∃ building,
        specs.foldlM (HttpBuilding.add parseUri directory reserved) .empty = .ok building ∧
        table = ⟨building.byHost, specs.length, building.enabledCount⟩ := by
  simp only [build, bind_eq_ok, ensure_eq_ok, exists_const]
  constructor
  · rintro ⟨few, building, loop, made⟩
    cases made
    exact ⟨few, building, loop, rfl⟩
  · rintro ⟨few, building, loop, rfl⟩
    exact ⟨few, building, loop, rfl⟩

theorem HttpRouteTable.resolves_of_build {parseUri : UriParser} {specs : List FileHttpRouteConfig}
    {directory : List Char} {reserved : List (String × String)} {table : HttpRouteTable}
    (built : build parseUri specs directory reserved = .ok table) :
    table.Resolves parseUri directory reserved specs := by
  obtain ⟨_, building, loop, rfl⟩ := build_eq_ok.mp built
  have index := KeyedIndex.View.built_of_adds HttpBuilding.add_adds loop
  have find_eq (key : HttpKey) : find ⟨building.byHost, specs.length, building.enabledCount⟩ key =
      HttpBuilding.view.find building key := rfl
  constructor
  · intro spec member
    obtain ⟨key, value, ⟨host, route, compiles, rfl, rfl⟩, found⟩ := index.present spec member
    refine ⟨host, route, compiles, fun enabled => ?_⟩
    rw [FileHttpRouteConfig.entry, if_pos enabled] at found
    rw [find_eq, found]
  · intro key route found
    rw [find_eq] at found
    rcases index.origin key route found with before | ⟨spec, member, host, compiled, compiles, same,
      value⟩
    · cases before
    · unfold FileHttpRouteConfig.entry at value
      split_ifs at value with enabled
      cases value
      exact ⟨spec, member, host, enabled, compiles, same⟩

/-- The route that resolution finds first. -/
theorem HttpRouteTable.resolve_of_find_exact {table : HttpRouteTable} {host path : String}
    {route : HttpRoute} (found : table.find (host, path, .exact) = some route) :
    table.resolve host path = some route := by
  obtain ⟨routes, present, inside⟩ := Option.bind_eq_some_iff.mp found
  have exact_entry : routes.exact.lookup path = some route := inside
  rw [resolve, present, Option.bind_some, exact_entry]

/-- Without an exact route, resolution finds the prefix of the whole path. -/
theorem HttpRouteTable.resolve_of_find_prefixed {table : HttpRouteTable} {host path : String}
    {route : HttpRoute} (none_exact : table.find (host, path, .exact) = none)
    (found : table.find (host, path, .prefixed) = some route) :
    table.resolve host path = some route := by
  obtain ⟨routes, present, inside⟩ := Option.bind_eq_some_iff.mp found
  have prefix_entry : routes.prefixes.lookup path = some route := inside
  have no_exact_entry : routes.exact.lookup path = none := by
    rw [find, findRoute, present, Option.bind_some] at none_exact
    exact none_exact
  rw [resolve, present, Option.bind_some, no_exact_entry, prefix_entry]

/-- A host with a route is a host of the table. -/
theorem HttpRouteTable.mem_hosts_of_find {table : HttpRouteTable} {key : HttpKey}
    {route : HttpRoute} (found : table.find key = some route) : key.1 ∈ table.hosts := by
  obtain ⟨routes, present, _⟩ := Option.bind_eq_some_iff.mp found
  exact AList.mem_keys.mp (Table.mem_iff_lookup.mpr ⟨routes, present⟩)

/-! ## The routes of a table -/

/-- The routes of a table are those under its keys. -/
theorem HttpRouteTable.mem_enabledRoutes {table : HttpRouteTable} {route : HttpRoute} :
    route ∈ table.enabledRoutes ↔ ∃ key, table.find key = some route := by
  simp only [enabledRoutes, List.mem_flatMap, List.mem_append, Table.mem_values]
  constructor
  · rintro ⟨⟨host, routes⟩, member, ⟨path, found⟩ | ⟨path, found⟩⟩
    · refine ⟨(host, path, .exact), ?_⟩
      rw [find, findRoute, Table.lookup_eq_some_iff.mpr member, Option.bind_some]
      exact found
    · refine ⟨(host, path, .prefixed), ?_⟩
      rw [find, findRoute, Table.lookup_eq_some_iff.mpr member, Option.bind_some]
      exact found
  · rintro ⟨⟨host, path, pathMatch⟩, found⟩
    obtain ⟨routes, present, inside⟩ := Option.bind_eq_some_iff.mp found
    refine ⟨⟨host, routes⟩, Table.lookup_eq_some_iff.mp present, ?_⟩
    cases pathMatch with
    | exact => exact .inl ⟨path, inside⟩
    | prefixed => exact .inr ⟨path, inside⟩

theorem resolveParent_origin {prefixes : Table String HttpRoute} {characters : List Char}
    {route : HttpRoute} (resolved : resolveParent prefixes characters = some route) :
    ∃ path, prefixes.lookup path = some route := by
  induction characters with
  | nil => cases resolved
  | cons character rest ih =>
      rw [resolveParent] at resolved
      split_ifs at resolved with slash root
      · exact ⟨_, resolved⟩
      · split at resolved
        · rename_i found_route found
          cases resolved
          exact ⟨_, found⟩
        · exact ih resolved
      · exact ih resolved

/-- Resolution finds routes of the table only. -/
theorem HttpRouteTable.find_of_resolve {table : HttpRouteTable} {host path : String}
    {route : HttpRoute} (resolved : table.resolve host path = some route) :
    ∃ key, table.find key = some route := by
  obtain ⟨routes, present, inside⟩ := Option.bind_eq_some_iff.mp resolved
  have under (key : HttpKey) (same : key.1 = host)
      (found : (routes.of key.2.2).lookup key.2.1 = some route) : table.find key = some route := by
    rw [find, findRoute, same, present, Option.bind_some, found]
  split at inside
  · rename_i found_route found
    cases inside
    exact ⟨(host, path, .exact), under _ rfl found⟩
  · split at inside
    · rename_i found_route found
      cases inside
      exact ⟨(host, path, .prefixed), under _ rfl found⟩
    · obtain ⟨parent, found⟩ := resolveParent_origin inside
      exact ⟨(host, parent, .prefixed), under _ rfl found⟩

/-- The ids of the routes that a table has while it is built. -/
structure HttpBuilding.DistinctIds (building : HttpBuilding) : Prop where
  listed : ∀ key route, findRoute building.byHost key = some route → route.id ∈ building.ids
  distinct : ∀ key other route other_route, findRoute building.byHost key = some route →
    findRoute building.byHost other = some other_route → route.id = other_route.id → key = other

theorem HttpBuilding.put_ids (building : HttpBuilding) (id : String) (key : HttpKey)
    (route : Option HttpRoute) : (building.put id key route).ids = id :: building.ids := by
  cases route with
  | none => rfl
  | some route => rfl

theorem HttpBuilding.distinctIds_put {building : HttpBuilding} (ids : building.DistinctIds)
    {id : String} (new_id : id ∉ building.ids) {key : HttpKey} (fresh : key ∉ building.keys)
    {entry : Option HttpRoute} (named : ∀ route, entry = some route → route.id = id) :
    (building.put id key entry).DistinctIds := by
  have adds := building.adds_put id fresh entry
  -- A route of the new table is the new one, or one of the table before with an older id.
  have known (other : HttpKey) (route : HttpRoute)
      (found : findRoute (building.put id key entry).byHost other = some route) :
      (other = key ∧ route.id = id) ∨
        (other ≠ key ∧ findRoute building.byHost other = some route ∧ route.id ≠ id) := by
    by_cases same : other = key
    · subst same
      exact .inl ⟨rfl, named route (adds.own.symm.trans found)⟩
    · have before : findRoute building.byHost other = some route :=
        (adds.others other same).symm.trans found
      refine .inr ⟨same, before, ?_⟩
      rintro rfl
      exact new_id (ids.listed other route before)
  constructor
  · intro other route found
    rw [put_ids, List.mem_cons]
    rcases known other route found with ⟨_, same⟩ | ⟨_, before, _⟩
    · exact .inl same
    · exact .inr (ids.listed other route before)
  · intro other another route another_route found another_found same
    rcases known other route found with ⟨rfl, new⟩ | ⟨_, before, old⟩
    · rcases known another another_route another_found with ⟨rfl, _⟩ | ⟨_, _, old⟩
      · rfl
      · exact absurd (same.symm.trans new) old
    · rcases known another another_route another_found with ⟨_, new⟩ | ⟨_, another_before, _⟩
      · exact absurd (same.trans new) old
      · exact ids.distinct other another route another_route before another_before same

/-- The routes of a table have distinct ids. -/
theorem HttpRouteTable.eq_of_id {parseUri : UriParser} {specs : List FileHttpRouteConfig}
    {directory : List Char} {reserved : List (String × String)} {table : HttpRouteTable}
    (built : build parseUri specs directory reserved = .ok table) {key other : HttpKey}
    {route other_route : HttpRoute} (found : table.find key = some route)
    (other_found : table.find other = some other_route) (same : route.id = other_route.id) :
    route = other_route := by
  obtain ⟨_, building, loop, rfl⟩ := build_eq_ok.mp built
  have ids : building.DistinctIds := by
    refine foldlM_preserves HttpBuilding.DistinctIds ?_ ?_ loop
    · intro state spec next ids added
      obtain ⟨host, compiled, new_id, accepted, fresh, rfl⟩ := HttpBuilding.add_eq_ok.mp added
      apply HttpBuilding.distinctIds_put ids new_id fresh
      intro entry_route entered
      obtain ⟨upstream, _, rfl⟩ := accepted.compiled
      unfold FileHttpRouteConfig.entry at entered
      split_ifs at entered
      cases entered
      rfl
    · constructor
      · intro key route found
        cases found
      · intro key other route other_route found
        cases found
  have same_key := ids.distinct key other route other_route found other_found same
  subst same_key
  exact Option.some.inj (found.symm.trans other_found)

end EdgeGateway.HttpProxy
