import EdgeGateway.Configuration.RouteTables
import EdgeGateway.HttpProxy.Resolution
import EdgeGateway.Library.TripletCase

/-!
# Two spellings of one path

Paths are compared as they are written, so a route takes one spelling of its own path only; what
follows that path may be spelled in any way.  Where the own path has no percent triplet with a
letter, it has no other spelling.
-/

namespace EdgeGateway.Configuration

open Grpc Http HttpProxy PercentEncoding Results Routes Routing Security TripletCase

variable {environment : Environment} {file : FileConfig} {directory : List Char} {config : Config}

/-! ## The path of a target -/

/-- The configured path of what a request is handed to; the fallback has none. -/
def Target.path : Target → Option String
  | .websocket route => some route.path
  | .grpc route => some route.path
  | .http route => some route.path
  | .fallback _ => none

/-- The path starts with the configured path of the target, as that is written. -/
def Target.Starts (target : Target) (path : String) : Prop :=
  ∀ own, target.path = some own → own.toList <+: path.toList

/-- The configured path of the target has a percent triplet with a letter. -/
def Target.Lettered (target : Target) : Prop :=
  ∃ path, target.path = some path ∧ TripletCase.Lettered path.toList

/-- The policy that a request has to meet is that of its target. -/
theorem Selected.security_eq (selected : Selected) :
    selected.security = (selected.target.map Target.security).getD ⟨false⟩ := by
  cases chosen : selected.target with
  | some target =>
      rw [security_of_target chosen]
      rfl
  | none =>
      obtain ⟨websocket, grpc, http, fallback⟩ := selected
      cases websocket with
      | some route => cases chosen
      | none =>
          cases grpc with
          | some route => cases chosen
          | none =>
              cases http with
              | some route => cases chosen
              | none =>
                  cases fallback with
                  | some fallback => cases chosen
                  | none => rfl

/-! ## Exact routes -/

/-- The tables of an accepted configuration. -/
theorem FileConfig.exists_built (accepted : file.validate environment directory = .ok config) :
    (websocketKind environment.parseUri).Resolves file.routes config.routes ∧
      (grpcKind environment.parseUri).Resolves file.grpcRoutes config.grpcRoutes ∧
      ∃ reserved, HttpRouteTable.build environment.parseUri file.httpRoutes directory reserved =
        .ok config.httpRoutes := by
  obtain ⟨before, taken, assembled⟩ := assembled_of_validate accepted
  obtain ⟨tables, built, _, _, _, http_same, _⟩ := FileConfig.validate_eq_ok accepted
  obtain ⟨_, reserved, _, _, _, _, http_built, _⟩ := FileConfig.buildTables_eq_ok built
  exact ⟨assembled.websocket, assembled.grpc, reserved.paths, http_same ▸ http_built⟩

theorem path_of_websocket {host path : String} {route : Route}
    (accepted : file.validate environment directory = .ok config)
    (found : config.routes.resolve host path = some route) : route.path = path := by
  obtain ⟨spec, _, _, compiles, rfl⟩ :=
    (FileConfig.exists_built accepted).1.origin host path route found
  obtain ⟨label, _, compiled⟩ := compiles.compiled
  obtain ⟨backend, _, rfl⟩ := map_eq_ok.mp compiled
  rfl

theorem path_of_grpc {host path : String} {route : GrpcRoute}
    (accepted : file.validate environment directory = .ok config)
    (found : config.grpcRoutes.resolve host path = some route) : route.path = path := by
  obtain ⟨spec, _, _, compiles, rfl⟩ :=
    (FileConfig.exists_built accepted).2.1.origin host path route found
  obtain ⟨label, _, compiled⟩ := compiles.compiled
  simp only [grpcKind, bind_eq_ok] at compiled
  obtain ⟨backend, _, uri, _, compiled⟩ := compiled
  cases compiled
  rfl

/-! ## Segment prefixes -/

/-- Every percent sign of an accepted path has two characters behind it. -/
theorem whole_of_validateHttpPath {path : String} (accepted : validateHttpPath path = .ok ()) :
    Whole path.toList := by
  intro front rest split
  have encoded := (admitted_of_validatePathBytes accepted).encoded_whole
  rw [split, Utf8.encode_append, Utf8.encode_cons, Utf8.encodeChar_ascii (by decide)] at encoded
  obtain ⟨second, third, tail, bytes, second_digit, _⟩ := encoded.digits_follow rfl
  match rest with
  | [] => cases bytes
  | [character] =>
      have own : second ∈ String.utf8EncodeChar character := by
        rw [Utf8.encode_cons, Utf8.encode, List.flatMap_nil, List.append_nil] at bytes
        change String.utf8EncodeChar character = second :: third :: tail at bytes
        rw [bytes]
        exact List.mem_cons_self
      by_cases ascii : character.toNat < 0x80
      · have single := @Utf8.encode_ascii [character] (by simpa using ascii)
        rw [single] at bytes
        cases bytes
      · have high := Utf8.not_ascii_of_mem_encodeChar (Nat.le_of_not_lt ascii) own
        have low := ascii_of_hexDigit second_digit
        exact absurd (UInt8.lt_of_lt_of_le low high) (UInt8.lt_irrefl second)
  | _ :: _ :: rest =>
      rw [List.length_cons, List.length_cons]
      omega

/-- What a route covers starts with its path. -/
theorem starts_of_covers {route : HttpRoute} {path : String}
    (rooted : path.toList.head? = some '/') (covers : route.Covers path) :
    route.path.toList <+: path.toList := by
  rcases covers with root | rfl | below
  · obtain ⟨rest, split⟩ := List.head?_eq_some_iff.mp rooted
    rw [root, split]
    exact List.prefix_append ['/'] rest
  · exact List.prefix_rfl
  · rw [String.toList_append] at below
    exact (List.prefix_append _ _).trans below

/-- A route covers the spellings of what it covers that start with its path. -/
theorem covers_of_respelled {route : HttpRoute} {path other : String}
    (valid : validateHttpPath route.path = .ok ()) (starts : route.path.toList <+: other.toList)
    (respelled : Respelled path.toList other.toList) (covers : route.Covers path) :
    route.Covers other := by
  rcases covers with root | rfl | ⟨rest, split⟩
  · exact .inl root
  · exact .inr (.inl (String.toList_inj.mp (starts.eq_of_length respelled.length_eq)).symm)
  · obtain ⟨behind, other_split⟩ := starts
    rw [String.toList_append, List.append_assoc] at split
    rw [← split, ← other_split] at respelled
    have continued : Respelled ('/' :: rest) behind :=
      respelled.rest (whole_of_validateHttpPath valid)
    cases continued with
    | @same _ _ further _ =>
        refine .inr (.inr ⟨further, ?_⟩)
        rw [← other_split, String.toList_append, List.append_assoc]
        rfl

section Table

variable {parseUri : UriParser} {reserved : List (String × String)}
  {specs : List FileHttpRouteConfig} {table : HttpRouteTable}
  (built : HttpRouteTable.build parseUri specs directory reserved = .ok table)
  {host path other : String} (distinct : path ≠ other)

include built distinct

/-- A route that takes one of two spellings, and whose path starts the other one too, is a segment
prefix of both. -/
theorem isAbove_of_respelled {route : HttpRoute} (accepted : validateHttpPath path = .ok ())
    (respelled : Respelled path.toList other.toList)
    (resolved : table.resolve host path = some route)
    (starts : route.path.toList <+: other.toList) :
    Enables parseUri directory reserved specs route ∧ route.IsAbove host other ∧
      (∀ rival, Enables parseUri directory reserved specs rival → ¬rival.IsExact host path) ∧
      ∀ rival, Enables parseUri directory reserved specs rival → rival.IsAbove host path →
        rival.path.length ≤ route.path.length := by
  cases HttpRouteTable.wins_of_resolve built (rooted_of_validateHttpPath accepted) resolved with
  | exact own equal =>
      obtain ⟨_, _, rfl⟩ := equal
      exact absurd (String.toList_inj.mp (starts.eq_of_length respelled.length_eq)) distinct
  | longest own covering inexact longest =>
      obtain ⟨same_host, prefixed, covers⟩ := covering
      exact ⟨own,
        ⟨same_host, prefixed, covers_of_respelled own.admitted starts respelled covers⟩, inexact,
        longest⟩

/-- Two spellings of a path have the same HTTP route when each starts with the path of the route of
the other one. -/
theorem resolve_eq_of_respelled (accepted : validateHttpPath path = .ok ())
    (other_accepted : validateHttpPath other = .ok ())
    (respelled : Respelled path.toList other.toList)
    (starts : ∀ route, table.resolve host path = some route → route.path.toList <+: other.toList)
    (other_starts : ∀ route, table.resolve host other = some route →
      route.path.toList <+: path.toList) :
    table.resolve host path = table.resolve host other := by
  have rooted := rooted_of_validateHttpPath accepted
  have other_rooted := rooted_of_validateHttpPath other_accepted
  cases resolved : table.resolve host path with
  | none =>
      cases other_resolved : table.resolve host other with
      | none => rfl
      | some rival =>
          obtain ⟨own, above, _⟩ := isAbove_of_respelled built distinct.symm other_accepted
            respelled.symm other_resolved (other_starts rival other_resolved)
          exact absurd above
            ((HttpRouteTable.resolve_eq_none built rooted).mp resolved rival own).2
  | some route =>
      obtain ⟨own, above, inexact, longest⟩ :=
        isAbove_of_respelled built distinct accepted respelled resolved (starts route resolved)
      cases other_resolved : table.resolve host other with
      | none =>
          exact absurd above
            ((HttpRouteTable.resolve_eq_none built other_rooted).mp other_resolved route own).2
      | some rival =>
          obtain ⟨rival_own, rival_above, _, rival_longest⟩ :=
            isAbove_of_respelled built distinct.symm other_accepted respelled.symm other_resolved
              (other_starts rival other_resolved)
          -- Each of the two is above both spellings, so neither is longer than the other.
          have rival_wins : Wins (Enables parseUri directory reserved specs) host path rival := by
            refine .longest rival_own rival_above inexact fun third third_own third_above => ?_
            exact (longest third third_own third_above).trans (rival_longest route own above)
          rw [← resolved]
          exact (HttpRouteTable.resolve_eq_some built rooted).mpr rival_wins

end Table

/-! ## The result -/

/-- A target of one of two spellings whose path starts the other one too is an HTTP route or the
fallback. -/
theorem none_exact_of_starts (accepted : file.validate environment directory = .ok config)
    {host path other : String} (distinct : path ≠ other)
    (respelled : Respelled path.toList other.toList)
    (starts : ∀ target, (config.select host path).target = some target → target.Starts other) :
    config.routes.resolve host path = none ∧ config.grpcRoutes.resolve host path = none := by
  have unequal : ¬path.toList <+: other.toList :=
    fun begins => distinct (String.toList_inj.mp (begins.eq_of_length respelled.length_eq))
  cases websocket : config.routes.resolve host path with
  | some route =>
      have selected := Config.target_select_of_websocket websocket
      refine absurd (starts (.websocket route) selected path ?_) unequal
      exact congrArg some (path_of_websocket accepted websocket)
  | none =>
      cases grpc : config.grpcRoutes.resolve host path with
      | some route =>
          refine absurd (starts (.grpc route) (Config.target_select_of_grpc websocket grpc) path ?_)
            unequal
          exact congrArg some (path_of_grpc accepted grpc)
      | none => exact ⟨rfl, rfl⟩

/-- Without a WebSocket or a gRPC route, the HTTP route or else the fallback is chosen. -/
theorem Config.target_select {host path : String}
    (no_websocket : config.routes.resolve host path = none)
    (no_grpc : config.grpcRoutes.resolve host path = none) :
    (config.select host path).target =
      match config.httpRoutes.resolve host path with
      | some route => some (.http route)
      | none =>
          (config.fallback.filter fun fallback => fallback.permitsHost host).map .fallback := by
  simp only [select, Selected.target, no_websocket, no_grpc, Option.isNone_none, if_true,
    Bool.and_self]
  cases config.httpRoutes.resolve host path with
  | none => rfl
  | some route => rfl

/-- The configured path of a target is an accepted one, and the path of the request starts with
it. -/
theorem own_path_of_target (accepted : file.validate environment directory = .ok config)
    {host path own : String} (path_accepted : validateHttpPath path = .ok ()) {target : Target}
    (chosen : (config.select host path).target = some target)
    (configured : target.path = some own) :
    validateHttpPath own = .ok () ∧ own.toList <+: path.toList := by
  cases websocket : config.routes.resolve host path with
  | some route =>
      rw [Config.target_select_of_websocket websocket] at chosen
      cases chosen
      cases configured
      rw [path_of_websocket accepted websocket]
      exact ⟨path_accepted, List.prefix_rfl⟩
  | none =>
      cases grpc : config.grpcRoutes.resolve host path with
      | some route =>
          rw [Config.target_select_of_grpc websocket grpc] at chosen
          cases chosen
          cases configured
          rw [path_of_grpc accepted grpc]
          exact ⟨path_accepted, List.prefix_rfl⟩
      | none =>
          obtain ⟨_, _, reserved, built⟩ := FileConfig.exists_built accepted
          have rooted := rooted_of_validateHttpPath path_accepted
          cases http : config.httpRoutes.resolve host path with
          | some route =>
              rw [Config.target_select_of_http websocket grpc http] at chosen
              cases chosen
              cases configured
              cases HttpRouteTable.wins_of_resolve built rooted http with
              | exact enabled equal =>
                  exact ⟨enabled.admitted, equal.2.2 ▸ List.prefix_rfl⟩
              | longest enabled above _ _ =>
                  exact ⟨enabled.admitted, starts_of_covers rooted above.2.2⟩
          | none =>
              rw [Config.target_select websocket grpc, http] at chosen
              obtain ⟨fallback, _, rfl⟩ := Option.map_eq_some_iff.mp chosen
              cases configured

/-- Two spellings of a path are handed to the same target, under the same policy, exactly when each
starts with the configured path of the target of the other one.  The path of a target starts every
spelling of what it starts unless one of its percent triplets has a letter. -/
theorem respelling_keeps_target (accepted : file.validate environment directory = .ok config)
    (host path other : String) (path_accepted : validateHttpPath path = .ok ())
    (other_accepted : validateHttpPath other = .ok ())
    (same : upperTriplets path.toList = upperTriplets other.toList) :
    ((config.select host path).target = (config.select host other).target ↔
      (∀ target, (config.select host path).target = some target → target.Starts other) ∧
      ∀ target, (config.select host other).target = some target → target.Starts path) ∧
    ((config.select host path).target = (config.select host other).target →
      (config.select host path).security = (config.select host other).security) ∧
    ∀ target, (config.select host path).target = some target → ¬target.Lettered →
      target.Starts other := by
  have respelled := respelled_of_upperTriplets same
  refine ⟨⟨?_, ?_⟩, ?_, ?_⟩
  · intro targets
    constructor
    · intro target chosen own configured
      exact (own_path_of_target accepted other_accepted (targets ▸ chosen) configured).2
    · intro target chosen own configured
      exact (own_path_of_target accepted path_accepted (targets ▸ chosen) configured).2
  · rintro ⟨starts, other_starts⟩
    by_cases distinct : path = other
    · rw [distinct]
    · obtain ⟨no_websocket, no_grpc⟩ :=
        none_exact_of_starts accepted distinct respelled starts
      obtain ⟨other_no_websocket, other_no_grpc⟩ :=
        none_exact_of_starts accepted (Ne.symm distinct) respelled.symm other_starts
      obtain ⟨_, _, reserved, built⟩ := FileConfig.exists_built accepted
      rw [Config.target_select no_websocket no_grpc] at starts ⊢
      rw [Config.target_select other_no_websocket other_no_grpc] at other_starts ⊢
      rw [resolve_eq_of_respelled built distinct path_accepted other_accepted respelled]
      · intro route resolved
        rw [resolved] at starts
        exact starts (.http route) rfl route.path rfl
      · intro route resolved
        rw [resolved] at other_starts
        exact other_starts (.http route) rfl route.path rfl
  · intro targets
    rw [Selected.security_eq, Selected.security_eq, targets]
  · intro target chosen plain own configured
    obtain ⟨valid, rest, split⟩ := own_path_of_target accepted path_accepted chosen configured
    rw [← split] at respelled
    exact respelled.prefix_of_plain (whole_of_validateHttpPath valid)
      fun lettered => plain ⟨own, configured, lettered⟩

/-- A configuration with a protected part whose path is written with an encoded letter, beside an
open route. -/
def respelledFile (pathMatch : PathMatch) : FileConfig :=
  { sampleFile with
    httpRoutes :=
      [{ id := "menu"
         host := "example.com"
         path := "/caf%C3%A9"
         pathMatch
         security := ⟨true⟩
         upstream := { endpoint := "http://127.0.0.1:9003" } },
       { id := "site"
         host := "example.com"
         path := "/"
         pathMatch := .prefixed
         upstream := { endpoint := "http://127.0.0.1:9003" } }] }

/-- Behind the path of the protected part both spellings are protected. -/
theorem respelling_keeps_target_below :
    ∃ config, (respelledFile .prefixed).validate sampleEnvironment [] = .ok config ∧
      (config.select "example.com" "/caf%C3%A9/%E2").target =
        (config.select "example.com" "/caf%C3%A9/%e2").target ∧
      (config.select "example.com" "/caf%C3%A9/%e2").security = ⟨true⟩ := by
  obtain ⟨config, accepted, evaluated⟩ := map_eq_ok.mp
    (show ((respelledFile .prefixed).validate sampleEnvironment []).map (fun config =>
        (config.select "example.com" "/caf%C3%A9/%E2").target.bind Target.path ==
          some "/caf%C3%A9" &&
        (config.select "example.com" "/caf%C3%A9/%e2").target.bind Target.path ==
          some "/caf%C3%A9" &&
        (config.select "example.com" "/caf%C3%A9/%E2").security == ⟨true⟩) = .ok true by
      decide +kernel)
  simp only [Bool.and_eq_true, beq_iff_eq] at evaluated
  obtain ⟨⟨upper_path, lower_path⟩, protected_upper⟩ := evaluated
  obtain ⟨exact_targets, policies, _⟩ := respelling_keeps_target accepted "example.com"
    "/caf%C3%A9/%E2" "/caf%C3%A9/%e2" (by decide +kernel) (by decide +kernel) (by decide +kernel)
  have targets := exact_targets.mpr ⟨?_, ?_⟩
  · exact ⟨config, accepted, targets, (policies targets).symm.trans protected_upper⟩
  · intro target chosen own configured
    rw [chosen, Option.bind_some, configured] at upper_path
    cases upper_path
    decide
  · intro target chosen own configured
    rw [chosen, Option.bind_some, configured] at lower_path
    cases lower_path
    decide

/-- The other spelling of the protected path leaves the protected route. -/
theorem protected_route_left :
    ∃ config, (respelledFile .exact).validate sampleEnvironment [] = .ok config ∧
      validateHttpPath "/caf%C3%A9" = .ok () ∧ validateHttpPath "/caf%c3%a9" = .ok () ∧
      upperTriplets "/caf%C3%A9".toList = upperTriplets "/caf%c3%a9".toList ∧
      (config.select "example.com" "/caf%C3%A9").target ≠
        (config.select "example.com" "/caf%c3%a9").target ∧
      (config.select "example.com" "/caf%C3%A9").security = ⟨true⟩ ∧
      (config.select "example.com" "/caf%c3%a9").security = ⟨false⟩ := by
  obtain ⟨config, accepted, evaluated⟩ := map_eq_ok.mp
    (show ((respelledFile .exact).validate sampleEnvironment []).map (fun config =>
        decide ((config.select "example.com" "/caf%C3%A9").target ≠
          (config.select "example.com" "/caf%c3%a9").target) &&
        (config.select "example.com" "/caf%C3%A9").security == ⟨true⟩ &&
        (config.select "example.com" "/caf%c3%a9").security == ⟨false⟩) = .ok true by
      decide +kernel)
  simp only [Bool.and_eq_true, decide_eq_true_eq, beq_iff_eq] at evaluated
  exact ⟨config, accepted, by decide +kernel, by decide +kernel, by decide +kernel, evaluated.1.1,
    evaluated.1.2, evaluated.2⟩

end EdgeGateway.Configuration
