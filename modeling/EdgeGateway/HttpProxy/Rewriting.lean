import EdgeGateway.HttpProxy.Resolution
import EdgeGateway.Library.Text

/-!
# Rewriting of resolved paths

The target of a resolved path is again a safe path.  A rewritten path continues, after what stands
in place of the matched segments, with nothing or with a slash; the restrictions on the specs keep
the two parts from meeting in a repeated slash.
-/

namespace EdgeGateway.HttpProxy

open Http Paths PercentEncoding Results Routing

/-! ## Safe paths -/

/-- All that `validateHttpPath` asks of a path but the length. -/
structure SafePath (path : List UInt8) : Prop where
  rooted : path.head? = some slash
  plain : ∀ byte ∈ path, byte ≠ 0x3F ∧ byte ≠ 0x23 ∧ byte ≠ backslash ∧ 0x20 < byte ∧ byte ≠ 0x7F
  single : ¬[slash, slash] <:+: path
  undotted : ∀ segment ∈ path.splitOn slash, segment ≠ [dot] ∧ segment ≠ [dot, dot]
  encoded : ∀ segment ∈ path.splitOn slash,
    Encoded (fun value => isForbiddenEncoding value = false) segment

/-- The accepted paths are the safe ones of at most 8192 bytes. -/
theorem validatePathBytes_iff_safe {path : List UInt8} :
    validatePathBytes path = .ok () ↔ SafePath path ∧ path.length ≤ 8192 := by
  rw [validatePathBytes_eq_ok]
  constructor
  · intro admitted
    exact ⟨⟨admitted.rooted, admitted.plain, admitted.single, admitted.undotted, admitted.encoded⟩,
      admitted.short⟩
  · rintro ⟨safe, short⟩
    exact ⟨safe.rooted, short, safe.plain, safe.single, safe.undotted, safe.encoded⟩

namespace SafePath

variable {left right : List UInt8}

theorem root : SafePath [slash] :=
  (validatePathBytes_iff_safe.mp (by decide)).1

/-- What follows a separator of a safe path, with the separator, is safe. -/
theorem suffix (safe : SafePath (left ++ slash :: right)) : SafePath (slash :: right) := by
  have ends : slash :: right <:+ left ++ slash :: right := List.suffix_append _ _
  have parts : (left ++ slash :: right).splitOn slash =
      left.splitOn slash ++ right.splitOn slash := List.splitOn_append_cons_self _ _
  have own : (slash :: right).splitOn slash = [] :: right.splitOn slash := by
    rw [List.splitOn_cons_eq_if_modifyHead, if_pos (beq_self_eq_true slash)]
  refine ⟨rfl, fun byte member => safe.plain byte (ends.subset member),
    fun repeated => safe.single (repeated.trans ends.isInfix), ?_, ?_⟩
  · intro segment member
    rw [own, List.mem_cons] at member
    rcases member with rfl | member
    · decide
    · exact safe.undotted segment (parts ▸ List.mem_append_right _ member)
  · intro segment member
    rw [own, List.mem_cons] at member
    rcases member with rfl | member
    · exact .nil
    · exact safe.encoded segment (parts ▸ List.mem_append_right _ member)

/-- A safe path that does not end in a slash can be continued by another one. -/
theorem append (safe : SafePath left) (open_end : left.getLast? ≠ some slash)
    (rest : SafePath (slash :: right)) : SafePath (left ++ slash :: right) := by
  have parts : (left ++ slash :: right).splitOn slash =
      left.splitOn slash ++ right.splitOn slash := List.splitOn_append_cons_self _ _
  have own : (slash :: right).splitOn slash = [] :: right.splitOn slash := by
    rw [List.splitOn_cons_eq_if_modifyHead, if_pos (beq_self_eq_true slash)]
  refine ⟨?_, ?_, ?_, ?_, ?_⟩
  · rw [List.head?_append, safe.rooted, Option.some_or]
  · intro byte member
    rcases List.mem_append.mp member with before | behind
    · exact safe.plain byte before
    · exact rest.plain byte behind
  · intro repeated
    rcases Splitting.repeated_of_append repeated with inside | inside | ⟨last, _⟩
    · exact safe.single inside
    · exact rest.single inside
    · exact open_end last
  · intro segment member
    rw [parts, List.mem_append] at member
    rcases member with before | behind
    · exact safe.undotted segment before
    · exact rest.undotted segment (own ▸ List.mem_cons_of_mem _ behind)
  · intro segment member
    rw [parts, List.mem_append] at member
    rcases member with before | behind
    · exact safe.encoded segment before
    · exact rest.encoded segment (own ▸ List.mem_cons_of_mem _ behind)

end SafePath

/-- The bytes of a path are safe. -/
def Safe (path : String) : Prop :=
  SafePath (Utf8.encode path.toList)

theorem safe_of_validateHttpPath {path : String} (accepted : validateHttpPath path = .ok ()) :
    Safe path :=
  (validatePathBytes_iff_safe.mp accepted).1

theorem encode_slash (characters : List Char) :
    Utf8.encode ('/' :: characters) = slash :: Utf8.encode characters := by
  rw [Utf8.encode_cons, Utf8.encodeChar_ascii (by decide)]
  rfl

/-- What follows the matched part of a path: nothing, or a slash and more. -/
def Continues (rest : List Char) : Prop :=
  rest = [] ∨ rest.head? = some '/'

theorem Safe.drop {start rest : List Char} (safe : SafePath (Utf8.encode (start ++ rest)))
    (continues : Continues rest) (nonempty : rest ≠ []) : SafePath (Utf8.encode rest) := by
  rcases continues with rfl | first
  · exact absurd rfl nonempty
  · obtain ⟨tail, rfl⟩ := List.head?_eq_some_iff.mp first
    rw [Utf8.encode_append, encode_slash] at safe
    rw [encode_slash]
    exact safe.suffix

theorem Safe.replace {replacement : String} {start rest : List Char}
    (safe : SafePath (Utf8.encode (start ++ rest))) (own : Safe replacement)
    (continues : Continues rest) (open_end : endsInSlash replacement = true → rest = []) :
    SafePath (Utf8.encode (replacement.toList ++ rest)) := by
  by_cases empty : rest = []
  · rw [empty, List.append_nil]
    exact own
  · have behind := Safe.drop safe continues empty
    rcases continues with none | first
    · exact absurd none empty
    · obtain ⟨tail, rfl⟩ := List.head?_eq_some_iff.mp first
      rw [encode_slash] at behind
      rw [Utf8.encode_append, encode_slash]
      apply own.append _ behind
      intro last
      have ends := (@Utf8.getLast?_encode _ '/' (by decide)).mp last
      exact empty (open_end (by rw [endsInSlash, ends]; rfl))

/-! ## Restrictions on the specs -/

/-- What the specs of a table promise about the rewriting of a route. -/
structure HttpRoute.Rewritable (route : HttpRoute) : Prop where
  segment : route.pathMatch = .prefixed → route.path ≠ "/" → endsInSlash route.path = false
  strip : route.rewrite = .stripPrefix → route.pathMatch = .prefixed ∧ route.path ≠ "/"
  replace : route.rewrite = .replacePrefix → ∃ replacement,
    route.replacementPrefix = some replacement ∧ validateHttpPath replacement = .ok () ∧
    (endsInSlash replacement = true → route.pathMatch = .exact) ∧
    (route.pathMatch = .prefixed → route.path ≠ "/")

theorem rewritable_of_checkRewrite {spec : FileHttpRouteConfig} {host : String}
    {upstream : UpstreamConfig}
    (segment : ¬(spec.pathMatch = .prefixed ∧ spec.path ≠ "/" ∧ endsInSlash spec.path = true))
    (accepted : checkRewrite spec = .ok ()) : (spec.compile host upstream).Rewritable := by
  simp only [checkRewrite, bind_eq_ok, ensure_eq_ok, exists_const] at accepted
  obtain ⟨strip, accepted⟩ := accepted
  constructor
  · intro prefixed below
    rw [← Bool.not_eq_true]
    exact fun ends => segment ⟨prefixed, below, ends⟩
  · intro stripped
    change spec.pathMatch = .prefixed ∧ spec.path ≠ "/"
    simpa using fun wrong => strip ⟨stripped, wrong⟩
  · intro replaced
    change spec.rewrite = .replacePrefix at replaced
    rw [replaced] at accepted
    change ∃ replacement, spec.replacementPrefix = some replacement ∧ _
    cases given : spec.replacementPrefix with
    | none =>
        rw [given] at accepted
        cases accepted
    | some replacement =>
        rw [given] at accepted
        simp only [bind_eq_ok, ensure_eq_ok, exists_const] at accepted
        obtain ⟨_, valid, open_end, below⟩ := accepted
        refine ⟨replacement, rfl, valid, ?_, fun prefixed root => below ⟨root, prefixed⟩⟩
        intro ends
        by_contra inexact
        exact open_end ⟨ends, fun both => inexact both.2⟩

variable {parseUri : UriParser} {directory : List Char} {reserved : List (String × String)}
  {specs : List FileHttpRouteConfig} {table : HttpRouteTable}

/-- The routes of a table can be rewritten. -/
theorem Enables.rewritable {route : HttpRoute}
    (built : HttpRouteTable.build parseUri specs directory reserved = .ok table)
    (enabled : Enables parseUri directory reserved specs route) : route.Rewritable := by
  obtain ⟨spec, member, _, compiles⟩ := enabled
  obtain ⟨_, building, loop, _⟩ := HttpRouteTable.build_eq_ok.mp built
  obtain ⟨host, other, _, accepted, _⟩ :=
    ((HttpBuilding.exists_loop_iff specs .empty).mp ⟨building, loop⟩).1 spec member
  obtain ⟨rfl, rfl⟩ := accepted.toCompiles.unique compiles
  obtain ⟨upstream, _, same⟩ := compiles.compiled
  rw [same]
  exact rewritable_of_checkRewrite accepted.segment accepted.rewritable

/-! ## Rewriting a resolved path -/

/-- The path, or the root for an empty one. -/
def orRoot (path : List Char) : String :=
  if path = [] then "/" else String.ofList path

/-- The path that a route makes of a request path: `rest` is what follows the matched part. -/
def HttpRoute.Rewrites (route : HttpRoute) (path target : String) : Prop :=
  match route.rewrite with
  | .preserve => target = path
  | .stripPrefix => ∃ rest, path.toList = route.path.toList ++ rest ∧ target = orRoot rest
  | .replacePrefix => ∃ replacement rest, route.replacementPrefix = some replacement ∧
      path.toList = route.path.toList ++ rest ∧ target = orRoot (replacement.toList ++ rest)

/-- The path of a winning route, unless it is the root, is followed by nothing or by a slash. -/
theorem HttpRoute.Covers.continues {route : HttpRoute} {path : String} (covers : route.Covers path)
    (below : route.path ≠ "/") :
    ∃ rest, path.toList = route.path.toList ++ rest ∧ Continues rest := by
  rcases covers with root | rfl | ⟨rest, split⟩
  · exact absurd root below
  · exact ⟨[], (List.append_nil _).symm, .inl rfl⟩
  · refine ⟨'/' :: rest, ?_, .inr rfl⟩
    rw [← split, String.toList_append, List.append_assoc]
    rfl

theorem HttpRoute.rewritePath_of_split {route : HttpRoute} {path : String} {rest : List Char}
    (split : path.toList = route.path.toList ++ rest) (changes : route.rewrite ≠ .preserve) :
    route.rewritePath path = .ok (orRoot
      ((if route.rewrite = .replacePrefix then route.replacementPrefix.getD "" else "").toList ++
        rest)) := by
  have stripped : stripText route.path.toList path.toList = some rest := by
    rw [stripText, split, if_pos (List.prefix_append _ _), List.drop_left]
  rw [rewritePath, if_neg changes, stripped]
  rfl

theorem safe_orRoot {path : List Char} (safe : path ≠ [] → SafePath (Utf8.encode path)) :
    Safe (orRoot path) := by
  rw [Safe, orRoot]
  split_ifs with empty
  · exact SafePath.root
  · rw [String.toList_ofList]
    exact safe empty

/-- The path of a resolved request is rewritten to a safe path. -/
theorem HttpRouteTable.rewritePath_of_resolve {host path : String} {route : HttpRoute}
    (built : build parseUri specs directory reserved = .ok table)
    (accepted : validateHttpPath path = .ok ()) (resolved : table.resolve host path = some route) :
    ∃ target, route.rewritePath path = .ok target ∧ route.Rewrites path target ∧ Safe target := by
  have safe := safe_of_validateHttpPath accepted
  have wins := wins_of_resolve built (rooted_of_validateHttpPath accepted) resolved
  have enabled : Enables parseUri directory reserved specs route := by
    cases wins with
    | exact own _ => exact own
    | longest own _ _ _ => exact own
  have rewritable := enabled.rewritable built
  -- An exact route leaves nothing of the path, and a prefix leaves what starts with a slash.
  have split : (route.pathMatch = .prefixed → route.path ≠ "/") →
      ∃ rest, path.toList = route.path.toList ++ rest ∧ Continues rest ∧
        (route.pathMatch = .exact → rest = []) := by
    intro below
    cases wins with
    | exact _ equal =>
        obtain ⟨_, _, rfl⟩ := equal
        exact ⟨[], (List.append_nil _).symm, .inl rfl, fun _ => rfl⟩
    | longest _ covering _ _ =>
        obtain ⟨_, prefixed, covers⟩ := covering
        obtain ⟨rest, split, continues⟩ := covers.continues (below prefixed)
        refine ⟨rest, split, continues, fun exact => ?_⟩
        rw [prefixed] at exact
        cases exact
  simp only [HttpRoute.Rewrites]
  cases kind : route.rewrite with
  | preserve =>
      refine ⟨path, ?_, rfl, safe⟩
      rw [HttpRoute.rewritePath, if_pos kind]
  | stripPrefix =>
      obtain ⟨rest, split, continues, _⟩ := split fun _ => (rewritable.strip kind).2
      have rewritten := HttpRoute.rewritePath_of_split split (by rw [kind]; decide)
      rw [kind] at rewritten
      refine ⟨_, rewritten, ⟨rest, split, rfl⟩, safe_orRoot fun nonempty => ?_⟩
      rw [Safe, split] at safe
      exact Safe.drop safe continues nonempty
  | replacePrefix =>
      obtain ⟨replacement, given, valid, open_end, below⟩ := rewritable.replace kind
      obtain ⟨rest, split, continues, no_rest⟩ := split below
      have rewritten := HttpRoute.rewritePath_of_split split (by rw [kind]; decide)
      rw [if_pos kind, given, Option.getD_some] at rewritten
      refine ⟨_, rewritten, ⟨replacement, rest, given, split, rfl⟩, safe_orRoot fun _ => ?_⟩
      rw [Safe, split] at safe
      exact Safe.replace safe (safe_of_validateHttpPath valid) continues
        fun ends => no_rest (open_end ends)

/-- A safe path has no question mark. -/
theorem Safe.no_question {path : String} (safe : Safe path) : '?' ∉ path.toList := by
  intro member
  obtain ⟨before, behind, split⟩ := List.append_of_mem member
  have written : '?'.toNat.toUInt8 ∈ Utf8.encode path.toList := by
    rw [split, Utf8.encode_append, Utf8.encode_cons, Utf8.encodeChar_ascii (by decide)]
    exact List.mem_append_right _ List.mem_cons_self
  exact (safe.plain _ written).1 rfl

/-- An accepted request is sent on with its rewritten path and its own query. -/
theorem HttpRoute.rewriteTarget_of_rewritePath {route : HttpRoute} {uri : Uri} {path : String}
    (accepted : validateHttpPath uri.path = .ok ())
    (rewritten : route.rewritePath uri.path = .ok path) :
    route.rewriteTarget uri =
      .ok (path ++ (uri.query.map fun query => "?" ++ query).getD "") := by
  rw [rewriteTarget, accepted, rewritten]
  cases uri.query with
  | none => exact congrArg Except.ok (String.append_empty).symm
  | some query => exact congrArg Except.ok String.append_assoc

/-- The target of a resolved request exists; its path is that of the request, with the matched
part removed or replaced, and is safe, and its query is that of the request. -/
theorem HttpRouteTable.rewriteTarget_of_resolve
    (built : build parseUri specs directory reserved = .ok table) (host : String) (uri : Uri)
    (accepted : validateHttpPath uri.path = .ok ()) (route : HttpRoute)
    (resolved : table.resolve host uri.path = some route) :
    ∃ path target, route.rewriteTarget uri = .ok target ∧ route.Rewrites uri.path path ∧
      Safe path ∧ target = path ++ (uri.query.map fun query => "?" ++ query).getD "" ∧
      (Text.splitOnce '?' target.toList =
        uri.query.map fun query => (path.toList, query.toList)) := by
  obtain ⟨path, rewritten, rewrites, safe⟩ := rewritePath_of_resolve built accepted resolved
  refine ⟨path, path ++ (uri.query.map fun query => "?" ++ query).getD "",
    HttpRoute.rewriteTarget_of_rewritePath accepted rewritten, rewrites, safe, rfl, ?_⟩
  cases uri.query with
  | none =>
      rw [Option.map_none, Option.getD_none, String.append_empty, Text.splitOnce,
        if_neg safe.no_question, Option.map_none]
  | some query =>
      rw [Option.map_some, Option.getD_some, String.toList_append, String.toList_append]
      exact Text.splitOnce_append safe.no_question

theorem HttpRouteTable.rewriteTarget_of_resolve_sample :
    ∃ table route, build sampleOrigin sampleRoutes [] [] = .ok table ∧
      table.resolve "example.com" "/app/x" = some route ∧
      ∃ target, route.rewriteTarget ⟨none, none, none, none, some ⟨"/app/x", some ""⟩⟩ =
        .ok target := by
  obtain ⟨table, built, resolved⟩ := map_eq_ok.mp
    (show (build sampleOrigin sampleRoutes [] []).map
      (fun table => (table.resolve "example.com" "/app/x").isSome) = .ok true by decide +kernel)
  obtain ⟨route, found⟩ := Option.isSome_iff_exists.mp resolved
  obtain ⟨path, target, rewritten, _⟩ := rewriteTarget_of_resolve built "example.com"
    ⟨none, none, none, none, some ⟨"/app/x", some ""⟩⟩ (by decide +kernel) route found
  exact ⟨table, route, built, found, target, rewritten⟩

end EdgeGateway.HttpProxy
