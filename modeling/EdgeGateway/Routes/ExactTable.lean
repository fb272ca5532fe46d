import EdgeGateway.Library.KeyedIndex
import EdgeGateway.Routing.Policy
import EdgeGateway.Security.ClientAddress

/-!
# Exact route tables

A table has one route for each enabled pair of a host and a path.  The tables of WebSocket and of
gRPC routes are built by the same loop; they differ in the paths they admit and in the backends of
their routes.
-/

namespace EdgeGateway.Routes

open Http Routing Security

/-- Why a route is not admitted; both kinds of exact tables have the same errors. -/
inductive RouteError
  | emptyId
  | idTooLong (id : String)
  | invalidId (id : String)
  | invalidPath (path : String)
  | pathTooLong (path : String)
  | duplicateId (id : String)
  | duplicateHostPath (host path : String)
  | invalidHost (host reason : String)
  | invalidBackend (backend reason : String)
deriving DecidableEq, Repr

/-- Whether a pair of a host and a path is taken. -/
instance decidableTaken (pair : String × String) (pairs : List (String × String)) :
    Decidable (pair ∈ pairs) :=
  inferInstance

/-! ## Checks of both kinds -/

/-- Longest accepted id, in bytes. -/
def maxRouteIdLength : Nat := 128

/-- Longest accepted path of an exact route, in bytes. -/
def maxRoutePathLength : Nat := 2048

/-- Text with a blank or a control character. -/
def hasBlank (text : List Char) : Bool :=
  text.any Text.isWhitespace || text.any Text.isControl

/-- Check the id of a route. -/
def validateId (id : String) : Except RouteError Unit :=
  if id.toList = [] then .error .emptyId
  else if maxRouteIdLength < (Utf8.encode id.toList).length then .error (.idTooLong id)
  else if hasBlank id.toList then .error (.invalidId id)
  else .ok ()

/-- What tells one kind of exact table from another: the parts of its specs, the paths it admits
and how it compiles a spec with its normalized host. -/
structure RouteKind (Spec Label Route : Type) where
  id : Spec → String
  host : Spec → String
  path : Spec → String
  enabled : Spec → Bool
  validatePath : String → Except RouteError Label
  compile : Spec → String → Label → Except RouteError Route

/-- The enabled routes, by host and path. -/
structure ExactTable (Route : Type) where
  enabledByHost : Table String (Table String Route)
  enabledCount : Nat
  configuredCount : Nat

/-- The route of a host and a path. -/
def ExactTable.resolve {Route : Type} (table : ExactTable Route) (host path : String) :
    Option Route :=
  table.enabledByHost.lookupIn host path

/-- A table while it is built; every entry has its pair among the paths. -/
structure Building (Route : Type) where
  ids : List String
  paths : List (String × String)
  enabledByHost : Table String (Table String Route)
  enabledCount : Nat
  indexed : ∀ key, key ∉ paths → enabledByHost.lookupIn key.1 key.2 = none

/-- The table before the first spec. -/
def Building.empty {Route : Type} : Building Route := ⟨[], [], ∅, 0, fun _ _ => rfl⟩

/-- Take up a checked spec, with its route if it is enabled. -/
def Building.put {Route : Type} (building : Building Route) (id : String) (key : String × String) :
    Option Route → Building Route
  | none =>
      { ids := id :: building.ids
        paths := key :: building.paths
        enabledByHost := building.enabledByHost
        enabledCount := building.enabledCount
        indexed := fun other unseen =>
          building.indexed other fun member => unseen (List.mem_cons_of_mem _ member) }
  | some route =>
      { ids := id :: building.ids
        paths := key :: building.paths
        enabledByHost := building.enabledByHost.insertIn key.1 key.2 route
        enabledCount := building.enabledCount + 1
        indexed := fun other unseen => by
          rw [List.mem_cons, not_or] at unseen
          rw [Table.lookupIn_insertIn_other _ _ unseen.1]
          exact building.indexed other unseen.2 }

variable {Spec Label Route : Type}

/-- The route that a spec puts into its table: none unless it is enabled. -/
def RouteKind.entry (kind : RouteKind Spec Label Route) (spec : Spec) (route : Route) :
    Option Route :=
  if kind.enabled spec then some route else none

/-- Check and compile one spec, after those before it. -/
def RouteKind.add (kind : RouteKind Spec Label Route) (building : Building Route) (spec : Spec) :
    Except RouteError (Building Route) := do
  validateId (kind.id spec)
  let host ← (normalizeDnsHost (kind.host spec)).mapError (.invalidHost (kind.host spec))
  let label ← kind.validatePath (kind.path spec)
  if kind.id spec ∈ building.ids then .error (.duplicateId (kind.id spec))
  else if (host, kind.path spec) ∈ building.paths then
    .error (.duplicateHostPath host (kind.path spec))
  else
    let route ← kind.compile spec host label
    return building.put (kind.id spec) (host, kind.path spec) (kind.entry spec route)

/-- Build a table of all specs. -/
def RouteKind.build (kind : RouteKind Spec Label Route) (specs : List Spec) :
    Except RouteError (ExactTable Route) :=
  (specs.foldlM kind.add .empty).map fun building =>
    ⟨building.enabledByHost, building.enabledCount, specs.length⟩

/-! ## What a table has -/

/-- The spec compiles to the route under the normalized host. -/
structure RouteKind.Compiles (kind : RouteKind Spec Label Route) (spec : Spec) (host : String)
    (route : Route) : Prop where
  normalized : normalizeDnsHost (kind.host spec) = .ok host
  compiled : ∃ label, kind.validatePath (kind.path spec) = .ok label ∧
    kind.compile spec host label = .ok route

/-- The entry of a spec: its route, if it is enabled. -/
def RouteKind.Entry (kind : RouteKind Spec Label Route) (spec : Spec) (key : String × String)
    (value : Option Route) : Prop :=
  ∃ route, kind.Compiles spec key.1 route ∧ key.2 = kind.path spec ∧
    value = kind.entry spec route

/-- What a table that is being built has seen and finds. -/
def Building.view : KeyedIndex.View (Building Route) (String × String) Route where
  seen := Building.paths
  find building key := building.enabledByHost.lookupIn key.1 key.2
  unseen := Building.indexed

theorem Building.adds_put (building : Building Route) (id : String) {key : String × String}
    (fresh : key ∉ building.paths) (route : Option Route) :
    Building.view.Adds building (building.put id key route) key route := by
  cases route with
  | none => exact ⟨fresh, rfl, building.indexed key fresh, fun _ _ => rfl⟩
  | some route =>
      refine ⟨fresh, rfl, Table.lookupIn_insertIn_same _ _ _ _, ?_⟩
      intro other distinct
      exact Table.lookupIn_insertIn_other _ _ distinct

theorem RouteKind.add_adds (kind : RouteKind Spec Label Route) (building : Building Route)
    (spec : Spec) (next : Building Route) (added : kind.add building spec = .ok next) :
    ∃ key value, kind.Entry spec key value ∧ Building.view.Adds building next key value := by
  unfold RouteKind.add at added
  simp only [Results.bind_eq_ok, Results.mapError_eq_ok] at added
  obtain ⟨_, _, host, normalized, label, admitted, added⟩ := added
  split_ifs at added with known_id known_path
  rw [Results.bind_eq_ok] at added
  obtain ⟨route, compiled, added⟩ := added
  cases added
  exact ⟨(host, kind.path spec), _, ⟨route, ⟨normalized, label, admitted, compiled⟩, rfl, rfl⟩,
    building.adds_put _ known_path _⟩

/-- What a built table resolves: every enabled spec to its route, and nothing else. -/
structure RouteKind.Resolves (kind : RouteKind Spec Label Route) (specs : List Spec)
    (table : ExactTable Route) : Prop where
  present : ∀ spec ∈ specs, ∃ host route, kind.Compiles spec host route ∧
    (kind.enabled spec = true → table.resolve host (kind.path spec) = some route)
  origin : ∀ host path route, table.resolve host path = some route →
    ∃ spec ∈ specs, kind.enabled spec = true ∧ kind.Compiles spec host route ∧
      path = kind.path spec

theorem RouteKind.resolves_of_build {kind : RouteKind Spec Label Route} {specs : List Spec}
    {table : ExactTable Route} (built : kind.build specs = .ok table) :
    kind.Resolves specs table := by
  obtain ⟨building, loop, rfl⟩ := Results.map_eq_ok.mp built
  have index := KeyedIndex.View.built_of_adds kind.add_adds loop
  constructor
  · intro spec member
    obtain ⟨⟨host, path⟩, value, ⟨route, compiles, rfl, rfl⟩, found⟩ := index.present spec member
    refine ⟨host, route, compiles, fun enabled => ?_⟩
    rw [RouteKind.entry, if_pos enabled] at found
    exact found
  · intro host path route found
    rcases index.origin (host, path) route found with before | ⟨spec, member, entry⟩
    · cases before
    · obtain ⟨compiled, compiles, same, value⟩ := entry
      unfold RouteKind.entry at value
      split_ifs at value with enabled
      cases value
      exact ⟨spec, member, enabled, compiles, same⟩

end EdgeGateway.Routes
