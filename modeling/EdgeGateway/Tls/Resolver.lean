import EdgeGateway.Tls.Naming

/-!
# Choosing a certificate

A handshake names a server.  The certificate that lists the name comes first, then the one that
lists a wildcard for everything but the first label, and then the default certificate.  Which
certificate that is does not depend on the order in which the directory was loaded.
-/

namespace EdgeGateway.Tls

open EdgeGateway.Configuration Results

variable {Certificate PrivateKey CertifiedKey : Type}

/-! ## Lookups -/

/-- The certificate for every name with one more label. -/
def resolveWildcard (wildcardCertificates : Table String CertifiedKey) (serverName : String) :
    Option CertifiedKey :=
  match Text.splitOnce '.' serverName.toList with
  | none => none
  | some (_, suffix) => wildcardCertificates.lookup (String.ofList suffix)

/-- The certificate for a server. -/
def resolveServerName (exactCertificates wildcardCertificates : Table String CertifiedKey)
    (defaultCertificate : Option CertifiedKey) (serverName : String) : Option CertifiedKey :=
  ((exactCertificates.lookup serverName).or
    (resolveWildcard wildcardCertificates serverName)).or defaultCertificate

/-- A server name in a handshake is looked up as the names of certificates are written. -/
def lookupKey (serverName : String) : String := normalizeSan serverName

/-- The certificate for a handshake. -/
def DynamicCertResolver.resolve (index : CertificateIndex CertifiedKey)
    (serverName : Option String) : Option CertifiedKey :=
  match serverName with
  | none => index.default
  | some serverName =>
      resolveServerName index.exact index.wildcard index.default (lookupKey serverName)

/-! ## What the names of a certificate enter -/

/-- The tables after a certificate has been entered under some names. -/
structure Entered (certifiedKey : CertifiedKey) (names : List String)
    (before after : Loading CertifiedKey) : Prop where
  exact : ∀ name key, after.exact.lookup name = some key ↔
    before.exact.lookup name = some key ∨
      (Text.stripPrefix "*." name = none ∧ name ∈ names ∧ key = certifiedKey)
  wildcard : ∀ suffix key, after.wildcard.lookup suffix = some key ↔
    before.wildcard.lookup suffix = some key ∨ ("*." ++ suffix ∈ names ∧ key = certifiedKey)
  metadata : after.metadata = before.metadata
  keysById : after.keysById = before.keysById

variable {certifiedKey : CertifiedKey} {loading next : Loading CertifiedKey}

theorem entered_of_addName {name : String}
    (added : addName certifiedKey loading name = .ok next) :
    Entered certifiedKey [name] loading next := by
  unfold addName at added
  cases wild : Text.stripPrefix "*." name with
  | some suffix =>
      simp only [wild, bind_eq_ok, ensure_eq_ok, exists_const] at added
      obtain ⟨fresh, ⟨⟩⟩ := added
      have starred : name = "*." ++ suffix := Text.stripPrefix_eq_some.mp wild
      refine ⟨fun other key => ?_, fun other key => ?_, rfl, rfl⟩
      · rw [List.mem_singleton]
        constructor
        · exact .inl
        · rintro (found | ⟨plain, rfl, _⟩)
          · exact found
          · cases wild.symm.trans plain
      · rw [Table.lookup_insert_fresh fresh, List.mem_singleton, starred, ← String.toList_inj,
          ← String.toList_inj, String.toList_append, String.toList_append,
          List.append_cancel_left_eq]
  | none =>
      simp only [wild, bind_eq_ok, ensure_eq_ok, exists_const] at added
      obtain ⟨fresh, ⟨⟩⟩ := added
      refine ⟨fun other key => ?_, fun other key => ?_, rfl, rfl⟩
      · rw [Table.lookup_insert_fresh fresh, List.mem_singleton]
        constructor
        · rintro (found | ⟨rfl, own⟩)
          · exact .inl found
          · exact .inr ⟨wild, rfl, own⟩
        · rintro (found | ⟨_, same, own⟩)
          · exact .inl found
          · exact .inr ⟨same, own⟩
      · rw [List.mem_singleton]
        constructor
        · exact .inl
        · rintro (found | ⟨starred, _⟩)
          · exact found
          · rw [Text.stripPrefix_eq_some.mpr starred.symm] at wild
            cases wild

/-- A certificate is entered under all of its names. -/
theorem entered_of_addNames {names : List String}
    (added : names.foldlM (addName certifiedKey) loading = .ok next) :
    Entered certifiedKey names loading next := by
  induction names generalizing loading with
  | nil =>
      cases added
      exact ⟨by simp, by simp, rfl, rfl⟩
  | cons name rest ih =>
      rw [List.foldlM_cons, bind_eq_ok] at added
      obtain ⟨middle, first, later⟩ := added
      have before := entered_of_addName first
      have after := ih later
      refine ⟨fun other key => ?_, fun suffix key => ?_, after.metadata.trans before.metadata,
        after.keysById.trans before.keysById⟩
      · rw [after.exact, before.exact, List.mem_singleton, List.mem_cons]
        tauto
      · rw [after.wildcard, before.wildcard, List.mem_singleton, List.mem_cons]
        tauto

/-! ## What a directory enters -/

variable (library : TlsLibrary Certificate PrivateKey CertifiedKey) (config : TlsConfig)
  (directory : Directory)

/-- The pair parses with this key and lists the name. -/
def PairLists (pair : Pair) (name : String) (key : CertifiedKey) : Prop :=
  ∃ metadata, readPair library config directory pair = .ok (key, metadata) ∧
    name ∈ metadata.dnsNames

/-- The tables after some pairs have been loaded. -/
structure Holds (pairs : List Pair) (loading : Loading CertifiedKey) : Prop where
  exact : ∀ name key, loading.exact.lookup name = some key ↔
    Text.stripPrefix "*." name = none ∧
      ∃ pair ∈ pairs, PairLists library config directory pair name key
  wildcard : ∀ suffix key, loading.wildcard.lookup suffix = some key ↔
    ∃ pair ∈ pairs, PairLists library config directory pair ("*." ++ suffix) key
  metadata : ∀ id metadata, loading.metadata.lookup id = some metadata ↔
    ∃ pair ∈ pairs, pair.1 = id ∧
      ∃ key, readPair library config directory pair = .ok (key, metadata)
  keysById : ∀ id key, loading.keysById.lookup id = some key ↔
    ∃ pair ∈ pairs, pair.1 = id ∧
      ∃ metadata, readPair library config directory pair = .ok (key, metadata)

variable {library config directory}

theorem holds_empty : Holds library config directory [] {} := by
  constructor
  · simp
  · simp
  · simp
  · simp

/-- A pair with a new id adds what it lists. -/
theorem Holds.loadPair {pairs : List Pair} {pair : Pair}
    (holds : Holds library config directory pairs loading)
    (fresh : ∀ other ∈ pairs, other.1 ≠ pair.1)
    (loaded : Tls.loadPair library config directory loading pair = .ok next) :
    Holds library config directory (pair :: pairs) next := by
  obtain ⟨⟨certifiedKey, parsed⟩, read, loaded⟩ := bind_eq_ok.mp loaded
  obtain ⟨middle, added, same⟩ := bind_eq_ok.mp loaded
  cases same
  have entered := entered_of_addNames added
  have own (name : String) (key : CertifiedKey) :
      PairLists library config directory pair name key ↔
        name ∈ parsed.dnsNames ∧ key = certifiedKey := by
    constructor
    · intro lists
      obtain ⟨metadata, again, member⟩ := lists
      cases read.symm.trans again
      exact ⟨member, rfl⟩
    · intro both
      obtain ⟨member, rfl⟩ := both
      exact ⟨parsed, read, member⟩
  have new_metadata : pair.1 ∉ middle.metadata := by
    rw [entered.metadata, Table.mem_iff_lookup]
    intro known
    obtain ⟨_, known⟩ := known
    obtain ⟨other, member, same, _⟩ := (holds.metadata _ _).mp known
    exact fresh other member same
  have new_key : pair.1 ∉ middle.keysById := by
    rw [entered.keysById, Table.mem_iff_lookup]
    intro known
    obtain ⟨_, known⟩ := known
    obtain ⟨other, member, same, _⟩ := (holds.keysById _ _).mp known
    exact fresh other member same
  constructor
  · intro name key
    rw [entered.exact, holds.exact, List.exists_mem_cons_iff, own, ← and_or_left, or_comm]
  · intro suffix key
    rw [entered.wildcard, holds.wildcard, List.exists_mem_cons_iff, own, or_comm]
  · intro id metadata
    rw [Table.lookup_insert_fresh new_metadata, entered.metadata, holds.metadata,
      List.exists_mem_cons_iff, read, or_comm]
    simp [eq_comm]
  · intro id key
    rw [Table.lookup_insert_fresh new_key, entered.keysById, holds.keysById,
      List.exists_mem_cons_iff, read, or_comm]
    simp [eq_comm]

/-- Pairs with distinct ids enter what each of them lists. -/
theorem Holds.loadPairs {before pairs : List Pair}
    (holds : Holds library config directory before loading)
    (distinct : (pairs.map Prod.fst).Nodup)
    (fresh : ∀ pair ∈ pairs, ∀ other ∈ before, other.1 ≠ pair.1)
    (loaded : pairs.foldlM (Tls.loadPair library config directory) loading = .ok next) :
    Holds library config directory (pairs.reverse ++ before) next := by
  induction pairs generalizing before loading with
  | nil =>
      cases loaded
      exact holds
  | cons pair rest ih =>
      rw [List.foldlM_cons, bind_eq_ok] at loaded
      obtain ⟨middle, first, later⟩ := loaded
      rw [List.map_cons, List.nodup_cons] at distinct
      rw [List.forall_mem_cons] at fresh
      have fresh_rest : ∀ other ∈ rest, ∀ known ∈ pair :: before, known.1 ≠ other.1 := by
        intro other member known known_member
        rcases List.mem_cons.mp known_member with rfl | earlier
        · intro same
          exact distinct.1 (same ▸ List.mem_map_of_mem member)
        · exact fresh.2 other member known earlier
      rw [List.reverse_cons, List.append_assoc]
      exact ih (holds.loadPair fresh.1 first) distinct.2 fresh_rest later

/-! ## The index of a directory -/

/-- The certificate of the id parses with this key and lists the name. -/
def Certifies (library : TlsLibrary Certificate PrivateKey CertifiedKey) (config : TlsConfig)
    (directory : Directory) (id name : String) (key : CertifiedKey) : Prop :=
  PairLists library config directory (named config id) name key

/-- The index says of every certificate of the directory what it lists. -/
structure Indexes (library : TlsLibrary Certificate PrivateKey CertifiedKey) (config : TlsConfig)
    (directory : Directory) (index : CertificateIndex CertifiedKey) : Prop where
  exact : ∀ name key, index.exact.lookup name = some key ↔
    Text.stripPrefix "*." name = none ∧ ∃ id, Certifies library config directory id name key
  wildcard : ∀ suffix key, index.wildcard.lookup suffix = some key ↔
    ∃ id, Certifies library config directory id ("*." ++ suffix) key
  metadata : ∀ id metadata, index.metadata.lookup id = some metadata ↔
    ∃ key, readPair library config directory (named config id) = .ok (key, metadata)
  default : ∀ key, index.default = some key ↔
    ∃ id metadata, config.defaultCertificate = some id ∧
      readPair library config directory (named config id) = .ok (key, metadata)

/-- What the pairs of a directory say is what its ids say. -/
theorem exists_pair_iff {ids : List String}
    (members : ∀ id, id ∈ ids ↔ certPath config id ∈ directory) {visited : List Pair}
    (perm : visited.Perm (ids.map (named config))) (said : Pair → Prop)
    (parsed : ∀ pair, said pair →
      ∃ read, readPair library config directory pair = .ok read) :
    (∃ pair ∈ visited, said pair) ↔ ∃ id, said (named config id) := by
  simp only [perm.mem_iff, List.mem_map]
  constructor
  · intro visited
    obtain ⟨_, ⟨id, _, rfl⟩, holds⟩ := visited
    exact ⟨id, holds⟩
  · intro known
    obtain ⟨id, holds⟩ := known
    obtain ⟨read, parses⟩ := parsed _ holds
    exact ⟨_, ⟨id, (members id).mpr (certPath_mem_of_readPair parses), rfl⟩, holds⟩

/-- A directory that loads is indexed, in whatever order it was visited. -/
theorem indexes_of_loadIndex (separate : Separate config) {listing : Order String}
    {visiting : Order Pair} {index : CertificateIndex CertifiedKey}
    (loaded : loadIndex library config listing visiting directory = .ok index) :
    Indexes library config directory index := by
  obtain ⟨pairs, discovered, loaded⟩ := bind_eq_ok.mp loaded
  obtain ⟨loading, entered, same⟩ := bind_eq_ok.mp loaded
  cases same
  obtain ⟨ids, rfl, distinct, members⟩ := discoverPairs_pairs separate discovered
  have perm := visiting.perm (ids.map (named config))
  have distinct_ids : ((visiting.arrange (ids.map (named config))).map Prod.fst).Nodup := by
    rw [(perm.map Prod.fst).nodup_iff, List.map_map]
    exact (List.map_id ids).symm ▸ distinct
  have empty : Holds library config directory [] {} := holds_empty
  have holds := empty.loadPairs distinct_ids (by simp) entered
  rw [List.append_nil] at holds
  have visited := (List.reverse_perm _).trans perm
  have lists (name : String) (key : CertifiedKey) := exists_pair_iff members visited
    (fun pair => PairLists library config directory pair name key)
    fun pair said => said.imp' _ fun metadata both => both.1
  have of_id (id : String) (key : CertifiedKey) (metadata : CertificateMetadata) :=
    exists_pair_iff members visited
      (fun pair => pair.1 = id ∧ readPair library config directory pair = .ok (key, metadata))
      fun pair said => ⟨_, said.2⟩
  have of_named (id : String) (key : CertifiedKey) (metadata : CertificateMetadata) :
      (∃ pair ∈ (visiting.arrange (ids.map (named config))).reverse, pair.1 = id ∧
          readPair library config directory pair = .ok (key, metadata)) ↔
        readPair library config directory (named config id) = .ok (key, metadata) := by
    rw [of_id]
    simp [named]
  constructor
  · intro name key
    rw [holds.exact, lists]
    rfl
  · intro suffix key
    rw [holds.wildcard, lists]
    rfl
  · intro id metadata
    simp only [holds.metadata, ← of_named]
    constructor
    · intro said
      obtain ⟨pair, member, same, key, read⟩ := said
      exact ⟨key, pair, member, same, read⟩
    · intro said
      obtain ⟨key, pair, member, same, read⟩ := said
      exact ⟨pair, member, same, key, read⟩
  · intro key
    simp only [Option.bind_eq_some_iff, holds.keysById, ← of_named]
    constructor
    · intro said
      obtain ⟨id, chosen, pair, member, same, metadata, read⟩ := said
      exact ⟨id, metadata, chosen, pair, member, same, read⟩
    · intro said
      obtain ⟨id, metadata, chosen, pair, member, same, read⟩ := said
      exact ⟨id, chosen, pair, member, same, metadata, read⟩

/-- Two indexes answer every lookup alike. -/
structure SameTables (left right : CertificateIndex CertifiedKey) : Prop where
  exact : ∀ name, left.exact.lookup name = right.exact.lookup name
  wildcard : ∀ suffix, left.wildcard.lookup suffix = right.wildcard.lookup suffix
  default : left.default = right.default
  metadata : ∀ id, left.metadata.lookup id = right.metadata.lookup id

theorem Indexes.unique {left right : CertificateIndex CertifiedKey}
    (left_indexes : Indexes library config directory left)
    (right_indexes : Indexes library config directory right) : SameTables left right := by
  constructor
  · intro name
    ext key
    rw [left_indexes.exact, right_indexes.exact]
  · intro suffix
    ext key
    rw [left_indexes.wildcard, right_indexes.wildcard]
  · ext key
    rw [left_indexes.default, right_indexes.default]
  · intro id
    ext metadata
    rw [left_indexes.metadata, right_indexes.metadata]

/-! ## Selection -/

/-- The name has one more label than the suffix. -/
def Covers (suffix name : String) : Prop :=
  ∃ label : String, '.' ∉ label.toList ∧ name = label ++ "." ++ suffix

theorem covers_iff {suffix name : String} :
    Covers suffix name ↔
      ∃ label, Text.splitOnce '.' name.toList = some (label, suffix.toList) := by
  simp only [Text.splitOnce_eq_some]
  constructor
  · intro covers
    obtain ⟨label, plain, rfl⟩ := covers
    refine ⟨label.toList, plain, ?_⟩
    simp [String.toList_append]
  · intro covers
    obtain ⟨label, plain, split⟩ := covers
    refine ⟨String.ofList label, by rwa [String.toList_ofList], ?_⟩
    rw [← String.toList_inj, split]
    simp [String.toList_append]

theorem Covers.length_lt {suffix name : String} (covers : Covers suffix name) :
    suffix.toList.length < name.toList.length := by
  obtain ⟨label, _, rfl⟩ := covers
  simp only [String.toList_append, List.length_append]
  exact Nat.lt_add_of_pos_left (Nat.add_pos_right _ (by decide))

/-- A wildcard does not cover two labels more. -/
theorem not_covers_two (front middle suffix : String) :
    ¬ Covers suffix (front ++ "." ++ middle ++ "." ++ suffix) := by
  intro covers
  obtain ⟨label, plain, same⟩ := covers
  rw [← String.toList_inj] at same
  have labels : front.toList ++ '.' :: middle.toList = label.toList := by
    apply (List.append_left_inj ('.' :: suffix.toList)).mp
    simpa [String.toList_append] using same
  exact plain (labels ▸ by simp)

theorem resolveWildcard_eq_some {table : Table String CertifiedKey} {name : String}
    {key : CertifiedKey} :
    resolveWildcard table name = some key ↔
      ∃ suffix, Covers suffix name ∧ table.lookup suffix = some key := by
  simp only [covers_iff, resolveWildcard]
  cases split : Text.splitOnce '.' name.toList with
  | none => simp
  | some parts =>
      obtain ⟨label, suffix⟩ := parts
      constructor
      · intro found
        exact ⟨String.ofList suffix, ⟨label, by rw [String.toList_ofList]⟩, found⟩
      · intro known
        obtain ⟨other, ⟨_, same⟩, found⟩ := known
        cases same
        exact (congrArg table.lookup String.ofList_toList).trans found

/-- The certificate for a name: the one that lists it, else one whose wildcard covers it, else the
default one. -/
inductive Selects (library : TlsLibrary Certificate PrivateKey CertifiedKey) (config : TlsConfig)
    (directory : Directory) (name : String) : Option CertifiedKey → Prop
  | exact {id : String} {key : CertifiedKey}
      (lists : Certifies library config directory id name key) :
      Selects library config directory name (some key)
  | wildcard {suffix id : String} {key : CertifiedKey}
      (unlisted : ∀ id key, ¬ Certifies library config directory id name key)
      (covers : Covers suffix name)
      (lists : Certifies library config directory id ("*." ++ suffix) key) :
      Selects library config directory name (some key)
  | default {id : String} {key : CertifiedKey} {metadata : CertificateMetadata}
      (unlisted : ∀ id key, ¬ Certifies library config directory id name key)
      (uncovered : ∀ suffix, Covers suffix name →
        ∀ id key, ¬ Certifies library config directory id ("*." ++ suffix) key)
      (chosen : config.defaultCertificate = some id)
      (read : readPair library config directory (named config id) = .ok (key, metadata)) :
      Selects library config directory name (some key)
  | none
      (unlisted : ∀ id key, ¬ Certifies library config directory id name key)
      (uncovered : ∀ suffix, Covers suffix name →
        ∀ id key, ¬ Certifies library config directory id ("*." ++ suffix) key)
      (absent : ∀ id, config.defaultCertificate = some id →
        ∀ read, readPair library config directory (named config id) ≠ .ok read) :
      Selects library config directory name none

namespace Indexes

variable {index : CertificateIndex CertifiedKey} {name : String} {key : CertifiedKey}

theorem exact_none (indexes : Indexes library config directory index)
    (unlisted : ∀ id key, ¬ Certifies library config directory id name key) :
    index.exact.lookup name = none := by
  cases found : index.exact.lookup name with
  | none => rfl
  | some key =>
      obtain ⟨_, id, lists⟩ := (indexes.exact name key).mp found
      exact absurd lists (unlisted id key)

/-- A listed name is found, as a wildcard when it looks like one. -/
theorem resolve_listed (indexes : Indexes library config directory index) {id : String}
    (lists : Certifies library config directory id name key) :
    resolveServerName index.exact index.wildcard index.default name = some key := by
  unfold resolveServerName
  cases wild : Text.stripPrefix "*." name with
  | none =>
      rw [(indexes.exact name key).mpr ⟨wild, id, lists⟩]
      rfl
  | some suffix =>
      have starred : name = "*." ++ suffix := Text.stripPrefix_eq_some.mp wild
      have absent : index.exact.lookup name = none := by
        cases found : index.exact.lookup name with
        | none => rfl
        | some other =>
            have plain := ((indexes.exact name other).mp found).1
            cases wild.symm.trans plain
      have covers : Covers suffix name := ⟨"*", by decide, starred⟩
      have found := (indexes.wildcard suffix key).mpr ⟨id, starred ▸ lists⟩
      rw [absent, resolveWildcard_eq_some.mpr ⟨suffix, covers, found⟩]
      rfl

theorem resolve_covered (indexes : Indexes library config directory index) {id suffix : String}
    (unlisted : ∀ id key, ¬ Certifies library config directory id name key)
    (covers : Covers suffix name)
    (lists : Certifies library config directory id ("*." ++ suffix) key) :
    resolveServerName index.exact index.wildcard index.default name = some key := by
  have found := (indexes.wildcard suffix key).mpr ⟨id, lists⟩
  rw [resolveServerName, indexes.exact_none unlisted,
    resolveWildcard_eq_some.mpr ⟨suffix, covers, found⟩]
  rfl

theorem resolve_uncovered (indexes : Indexes library config directory index)
    (unlisted : ∀ id key, ¬ Certifies library config directory id name key)
    (uncovered : ∀ suffix, Covers suffix name →
      ∀ id key, ¬ Certifies library config directory id ("*." ++ suffix) key) :
    resolveServerName index.exact index.wildcard index.default name = index.default := by
  have absent : resolveWildcard index.wildcard name = none := by
    cases found : resolveWildcard index.wildcard name with
    | none => rfl
    | some key =>
        obtain ⟨suffix, covers, known⟩ := resolveWildcard_eq_some.mp found
        obtain ⟨id, lists⟩ := (indexes.wildcard suffix key).mp known
        exact absurd lists (uncovered suffix covers id key)
  rw [resolveServerName, indexes.exact_none unlisted, absent]
  rfl

/-- The lookup answers with the selected certificate. -/
theorem resolve_iff (indexes : Indexes library config directory index)
    (result : Option CertifiedKey) :
    resolveServerName index.exact index.wildcard index.default name = result ↔
      Selects library config directory name result := by
  constructor
  · intro resolved
    by_cases listed : ∃ id key, Certifies library config directory id name key
    · obtain ⟨id, key, lists⟩ := listed
      rw [← resolved, indexes.resolve_listed lists]
      exact .exact lists
    · simp only [not_exists] at listed
      by_cases covered : ∃ suffix, Covers suffix name ∧
          ∃ id key, Certifies library config directory id ("*." ++ suffix) key
      · obtain ⟨suffix, covers, id, key, lists⟩ := covered
        rw [← resolved, indexes.resolve_covered listed covers lists]
        exact .wildcard listed covers lists
      · simp only [not_exists, not_and] at covered
        rw [← resolved, indexes.resolve_uncovered listed covered]
        cases default : index.default with
        | none =>
            refine .none listed covered fun id chosen read parses => ?_
            rw [(indexes.default read.1).mpr ⟨id, read.2, chosen, parses⟩] at default
            cases default
        | some key =>
            obtain ⟨id, metadata, chosen, read⟩ := (indexes.default key).mp default
            exact .default listed covered chosen read
  · intro selects
    cases selects with
    | exact lists => exact indexes.resolve_listed lists
    | wildcard unlisted covers lists => exact indexes.resolve_covered unlisted covers lists
    | default unlisted uncovered chosen read =>
        rw [indexes.resolve_uncovered unlisted uncovered]
        exact (indexes.default _).mpr ⟨_, _, chosen, read⟩
    | none unlisted uncovered absent =>
        rw [indexes.resolve_uncovered unlisted uncovered]
        cases default : index.default with
        | none => rfl
        | some key =>
            obtain ⟨id, metadata, chosen, read⟩ := (indexes.default key).mp default
            exact absurd read (absent id chosen _)

end Indexes

/-- No two ids share a name. -/
def Exclusive (library : TlsLibrary Certificate PrivateKey CertifiedKey) (config : TlsConfig)
    (directory : Directory) : Prop :=
  ∀ first second name key other, Certifies library config directory first name key →
    Certifies library config directory second name other → first = second

theorem exclusive_iff :
    Exclusive library config directory ↔ ∀ first second, first ≠ second →
      Unshared library config directory (named config first) (named config second) := by
  constructor
  · intro exclusive first second distinct one other one_read other_read name one_lists other_lists
    exact distinct (exclusive first second name one.1 other.1 ⟨_, one_read, one_lists⟩
      ⟨_, other_read, other_lists⟩)
  · intro unshared first second name key other one_certifies other_certifies
    obtain ⟨one, one_read, one_lists⟩ := one_certifies
    obtain ⟨another, other_read, other_lists⟩ := other_certifies
    by_contra distinct
    exact unshared first second distinct _ _ one_read other_read one_lists other_lists

/-- A directory whose certificates all parse loads exactly when no two ids share a name.  Every
order of loading gives the same tables, and these select the certificate that lists a name, else
the one whose wildcard covers it, else the default one.  A wildcard covers one more label. -/
theorem certificate_selected {written : TlsConfig} {base : List Char}
    (accepted : written.validate base = .ok config)
    (library : TlsLibrary Certificate PrivateKey CertifiedKey) (directory : Directory) :
    (∀ listing visiting,
      (∃ index, loadIndex library config listing visiting directory = .ok index) ↔
        Paired config directory ∧
        (∀ id, certPath config id ∈ directory →
          ∃ read, readPair library config directory (named config id) = .ok read) ∧
        Exclusive library config directory) ∧
    (∀ listing visiting other_listing other_visiting index other,
      loadIndex library config listing visiting directory = .ok index →
      loadIndex library config other_listing other_visiting directory = .ok other →
        SameTables index other) ∧
    (∀ listing visiting index,
      loadIndex library config listing visiting directory = .ok index → ∀ name result,
        resolveServerName index.exact index.wildcard index.default name = result ↔
          Selects library config directory name result) ∧
    ∀ suffix, ¬ Covers suffix suffix ∧
      ∀ front middle, ¬ Covers suffix (front ++ "." ++ middle ++ "." ++ suffix) := by
  have separate := (naming_of_validate accepted).separate
  refine ⟨?_, ?_, ?_, ?_⟩
  · intro listing visiting
    rw [loadIndex_isOk_iff separate, exclusive_iff]
    exact ⟨fun loadable => ⟨loadable.paired, loadable.parsed, loadable.unshared⟩,
      fun ⟨paired, parsed, unshared⟩ => ⟨paired, parsed, unshared⟩⟩
  · intro listing visiting other_listing other_visiting index other loaded other_loaded
    exact (indexes_of_loadIndex separate loaded).unique (indexes_of_loadIndex separate other_loaded)
  · intro listing visiting index loaded name result
    exact (indexes_of_loadIndex separate loaded).resolve_iff result
  · intro suffix
    exact ⟨fun covers => Nat.lt_irrefl _ covers.length_lt,
      fun front middle => not_covers_two front middle suffix⟩

/-! ## A host and its subdomains -/

/-- The certificates of a host and of its subdomains. -/
inductive SampleCertificate
  | host
  | subdomains
deriving DecidableEq

def SampleCertificate.chain : SampleCertificate → Bytes
  | .host => pemFile "CERTIFICATE" [
    "MIIBPzCB8qADAgECAhQ7vORdwEUGzBk5KjMw4HJqmfZJjjAFBgMrZXAwDDEKMAgG",
    "A1UEAwwBYTAeFw0yNjExMTkwNTEwMTJaFw0zNjExMTYwNTEwMTJaMAwxCjAIBgNV",
    "BAMMAWEwKjAFBgMrZXADIQAgSse5k4uk+Baj8BpC5fCUmt5KKwLv7YL3941XfaCX",
    "3qNmMGQwHQYDVR0OBBYEFPlRWwNpQio0wtHa+j2eIEt7cZmKMB8GA1UdIwQYMBaA",
    "FPlRWwNpQio0wtHa+j2eIEt7cZmKMBcGA1UdEQQQMA6CDGdhdGV3YXkudGVzdDAJ",
    "BgNVHRMEAjAAMAUGAytlcANBAJ2gQ/JnLNECohEKoGLdBf/GYVwsW1SDIwYWRoY2",
    "1wMPkXLVi6h1b+dddjkyqq59ml9/GyczbbvNC/qf0osOZgA="]
  | .subdomains => pemFile "CERTIFICATE" [
    "MIIBQTCB9KADAgECAhRqEaerAU5FqRKZUEyRu8V93NtwCDAFBgMrZXAwDDEKMAgG",
    "A1UEAwwBYTAeFw0yNjExMTkwNTEwNDhaFw0zNjExMTYwNTEwNDhaMAwxCjAIBgNV",
    "BAMMAWEwKjAFBgMrZXADIQCk3A5BhvuvfoWsPOv4NHckLIazYJ/Ou/fzWcKNmaqr",
    "nqNoMGYwHQYDVR0OBBYEFFII2zazn9AO+8YCCMJt0R/2ZlJMMB8GA1UdIwQYMBaA",
    "FFII2zazn9AO+8YCCMJt0R/2ZlJMMBkGA1UdEQQSMBCCDiouZ2F0ZXdheS50ZXN0",
    "MAkGA1UdEwQCMAAwBQYDK2VwA0EAVYOaE1SiTEnzxwsbkET7nRDxEATzlBANRL/x",
    "Cnjsu3y/Sr48ERksqRf/rZD8AJeQL5Z++F+TevEUrDzo/dyyDQ=="]

def SampleCertificate.privateKey : SampleCertificate → Bytes
  | .host => pemFile "PRIVATE KEY" [
    "MC4CAQAwBQYDK2VwBCIEIMvIwdq1dq3JB+KjrqUukrzsYID+SXtZ5Dua6fH+Ag4F"]
  | .subdomains => pemFile "PRIVATE KEY" [
    "MC4CAQAwBQYDK2VwBCIEICfMPZji79aFENVjliA4QplKjjIiQV4KTM6CKapcNEu1"]

namespace SampleCertificate

/-- The id of its pair. -/
def pairId : SampleCertificate → String
  | .host => "host"
  | .subdomains => "subdomains"

/-- Its only DNS name. -/
def san : SampleCertificate → String
  | .host => "gateway.test"
  | .subdomains => "*.gateway.test"

theorem san_inj {first second : SampleCertificate} (same : first.san = second.san) :
    first = second := by
  cases first <;> cases second <;> first | rfl | exact absurd same (by decide)

/-- Both certificates. -/
def all : List SampleCertificate := [.host, .subdomains]

theorem ofFile_eq (file : SampleCertificate → Bytes) (distinct : file .host ≠ file .subdomains)
    (sample : SampleCertificate) : ofFile all file (file sample) = some sample := by
  cases sample with
  | host => simp [ofFile, all]
  | subdomains => simp [ofFile, all, distinct]

theorem ofFile_chain : ∀ sample, ofFile all chain (chain sample) = some sample :=
  ofFile_eq chain (by decide +kernel)

theorem ofFile_privateKey : ∀ sample, ofFile all privateKey (privateKey sample) = some sample :=
  ofFile_eq privateKey (by decide +kernel)

end SampleCertificate

/-- What the TLS libraries do with the two certificates and their private keys. -/
def sampleLibrary : TlsLibrary SampleCertificate SampleCertificate SampleCertificate :=
  knownLibrary SampleCertificate.all SampleCertificate.chain SampleCertificate.privateKey
    fun sample => [sample.san]

/-- The files of a certificate in the default directory. -/
def SampleCertificate.addTo (directory : Directory) (sample : SampleCertificate) : Directory :=
  addPair sampleTls directory sample.pairId sample.chain sample.privateKey

/-- The files of both pairs. -/
def sampleDirectory : Directory :=
  SampleCertificate.addTo (SampleCertificate.addTo ∅ .host) .subdomains

theorem parse_sample (id : String) (sample : SampleCertificate) :
    ∃ metadata, parseCertificatePair sampleLibrary id sample.chain sample.privateKey =
      .ok (sample, metadata) ∧ metadata.dnsNames = [sample.san] := by
  have checked : checkSan id sample.san = .ok () := by
    cases sample <;> rfl
  have normal : normalizeSan sample.san = sample.san := by
    cases sample <;> decide +kernel
  have leaf : ∃ metadata, parseLeafMetadata sampleLibrary id sample = .ok metadata ∧
      metadata.dnsNames = [sample.san] := by
    have accepted : [sample.san].forM (checkSan id) = .ok () := by
      rw [forM_eq_ok]
      simpa using checked
    simp only [parseLeafMetadata, sampleLibrary, knownLibrary, List.map_cons, List.map_nil, normal,
      List.insertionSort_cons, List.insertionSort_nil, List.orderedInsert_nil, dedup, bind_eq_ok,
      ensure_eq_ok]
    exact ⟨_, ⟨(), List.cons_ne_nil _ _, (), accepted, rfl⟩, rfl⟩
  obtain ⟨metadata, read, names⟩ := leaf
  refine ⟨metadata, ?_, names⟩
  have own : sampleLibrary.certifiedKey [sample] sample = some sample := by
    cases sample <;> rfl
  have chain : sampleLibrary.certs sample.chain = some [sample] := by
    simp [sampleLibrary, knownLibrary, SampleCertificate.ofFile_chain]
  have privateKey : sampleLibrary.privateKey sample.privateKey = some (some sample) := by
    simp [sampleLibrary, knownLibrary, SampleCertificate.ofFile_privateKey]
  simp only [parseCertificatePair, chain, privateKey, own, read]
  rfl

theorem read_sample (sample : SampleCertificate) :
    ∃ metadata, readPair sampleLibrary sampleTls sampleDirectory (named sampleTls sample.pairId) =
      .ok (sample, metadata) ∧ metadata.dnsNames = [sample.san] := by
  obtain ⟨metadata, parsed, names⟩ := parse_sample sample.pairId sample
  refine ⟨metadata, readPair_named_eq_ok.mpr ⟨sample.chain, sample.privateKey, ?_, ?_, parsed⟩,
    names⟩
  · cases sample <;> rfl
  · cases sample <;> rfl

theorem sampleDirectory_only :
    OnlyPairs sampleTls [SampleCertificate.subdomains.pairId, SampleCertificate.host.pairId]
      sampleDirectory :=
  (onlyPairs_empty.add _ _ _).add _ _ _

theorem exists_sample {id : String} (member : certPath sampleTls id ∈ sampleDirectory) :
    ∃ sample : SampleCertificate, id = sample.pairId := by
  rw [sampleDirectory_only.certPath_mem (naming_of_validate sampleTls_validates).separate] at member
  simp only [List.mem_cons, List.not_mem_nil, or_false] at member
  rcases member with same | same
  · exact ⟨_, same⟩
  · exact ⟨_, same⟩

theorem certifies_sample {id name : String} {key : SampleCertificate} :
    Certifies sampleLibrary sampleTls sampleDirectory id name key ↔
      id = key.pairId ∧ name = key.san := by
  constructor
  · intro certifies
    obtain ⟨metadata, read, listed⟩ := certifies
    obtain ⟨sample, rfl⟩ := exists_sample (certPath_mem_of_readPair read)
    obtain ⟨own, own_read, names⟩ := read_sample sample
    cases own_read.symm.trans read
    rw [names, List.mem_singleton] at listed
    exact ⟨rfl, listed⟩
  · intro both
    obtain ⟨rfl, rfl⟩ := both
    obtain ⟨metadata, read, names⟩ := read_sample key
    exact ⟨metadata, read, names ▸ List.mem_singleton_self _⟩

theorem sampleDirectory_loads :
    ∃ index, loadIndex sampleLibrary sampleTls (.same _) (.same _) sampleDirectory = .ok index := by
  have separate := (naming_of_validate sampleTls_validates).separate
  have paired : Paired sampleTls sampleDirectory :=
    sampleDirectory_only.paired separate (by decide)
  have parsed : ∀ id, certPath sampleTls id ∈ sampleDirectory → ∃ read,
      readPair sampleLibrary sampleTls sampleDirectory (named sampleTls id) = .ok read := by
    intro id member
    obtain ⟨sample, rfl⟩ := exists_sample member
    obtain ⟨metadata, read, _⟩ := read_sample sample
    exact ⟨_, read⟩
  have exclusive : Exclusive sampleLibrary sampleTls sampleDirectory := by
    intro first second name key other one another
    obtain ⟨rfl, rfl⟩ := certifies_sample.mp one
    obtain ⟨rfl, same⟩ := certifies_sample.mp another
    rw [SampleCertificate.san_inj same]
  exact (loadIndex_isOk_iff separate _ _ _).mpr ⟨paired, parsed, exclusive_iff.mp exclusive⟩

/-- The host has its own certificate, and its subdomains have the other one. -/
theorem certificate_selected_sample : ∃ index,
    loadIndex sampleLibrary sampleTls (.same _) (.same _) sampleDirectory = .ok index ∧
      resolveServerName index.exact index.wildcard index.default "gateway.test" = some .host ∧
      resolveServerName index.exact index.wildcard index.default "api.gateway.test" =
        some .subdomains ∧
      resolveServerName index.exact index.wildcard index.default "v1.api.gateway.test" = none := by
  obtain ⟨index, loaded⟩ := sampleDirectory_loads
  obtain ⟨_, _, selected, _⟩ :=
    certificate_selected sampleTls_validates sampleLibrary sampleDirectory
  refine ⟨index, loaded, ?_, ?_, ?_⟩
  · exact (selected _ _ index loaded _ _).mpr (.exact (certifies_sample.mpr ⟨rfl, rfl⟩))
  · have covers : Covers "gateway.test" "api.gateway.test" := ⟨"api", by decide, rfl⟩
    refine (selected _ _ index loaded _ _).mpr
      (.wildcard ?_ covers (certifies_sample.mpr ⟨rfl, rfl⟩))
    intro id key certifies
    obtain ⟨_, own⟩ := certifies_sample.mp certifies
    cases key <;> exact absurd own (by decide)
  · refine (selected _ _ index loaded _ _).mpr (.none ?_ ?_ ?_)
    · intro id key certifies
      obtain ⟨_, own⟩ := certifies_sample.mp certifies
      cases key <;> exact absurd own (by decide)
    · intro suffix covers id key certifies
      obtain ⟨_, own⟩ := certifies_sample.mp certifies
      have wild : "*.".toList <+: key.san.toList := ⟨suffix.toList, by simp [← own]⟩
      cases key with
      | host => exact absurd wild (by decide)
      | subdomains =>
          have same : suffix = "gateway.test" := by
            rw [← String.toList_inj] at own ⊢
            rw [String.toList_append] at own
            exact List.append_cancel_left (own.trans rfl : _ = "*.".toList ++ _)
          rw [same] at covers
          exact not_covers_two "v1" "api" "gateway.test" covers
    · intro id chosen
      cases chosen

end EdgeGateway.Tls
