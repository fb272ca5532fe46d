import EdgeGateway.Tls.Store

/-!
# Names of certificate files

The file of a certificate and that of a private key are named after their id.  No two ids and no
two kinds of files share a name, so a scan of the directory finds the ids again.
-/

namespace EdgeGateway.Tls

open EdgeGateway.Configuration Results

variable {config : TlsConfig} {ids : List String} {directory : Directory}

/-- The directory has the two files of every id and no others. -/
def OnlyPairs (config : TlsConfig) (ids : List String) (directory : Directory) : Prop :=
  ∀ fileName, fileName ∈ directory ↔
    ∃ id ∈ ids, fileName = certPath config id ∨ fileName = keyPath config id

theorem OnlyPairs.certPath_mem (only : OnlyPairs config ids directory) (separate : Separate config)
    (id : String) : certPath config id ∈ directory ↔ id ∈ ids := by
  rw [only]
  constructor
  · intro named
    obtain ⟨other, member, same | same⟩ := named
    · exact certPath_inj same ▸ member
    · exact absurd same (certPath_ne_keyPath separate id other)
  · intro member
    exact ⟨id, member, .inl rfl⟩

theorem OnlyPairs.keyPath_mem (only : OnlyPairs config ids directory) (separate : Separate config)
    (id : String) : keyPath config id ∈ directory ↔ id ∈ ids := by
  rw [only]
  constructor
  · intro named
    obtain ⟨other, member, same | same⟩ := named
    · exact absurd same.symm (certPath_ne_keyPath separate other id)
    · exact keyPath_inj same ▸ member
  · intro member
    exact ⟨id, member, .inr rfl⟩

/-- Every file of such a directory has its partner. -/
theorem OnlyPairs.paired (only : OnlyPairs config ids directory) (separate : Separate config)
    (nonempty : "" ∉ ids) : Paired config directory := by
  refine ⟨?_, ?_, fun id => ?_⟩
  · rwa [only.certPath_mem separate]
  · rwa [only.keyPath_mem separate]
  · rw [only.certPath_mem separate, only.keyPath_mem separate]

theorem onlyPairs_empty : OnlyPairs config [] ∅ := by
  intro fileName
  simp [AList.notMem_empty]

/-- The files of one more id. -/
def addPair (config : TlsConfig) (directory : Directory) (id : String) (chain key : Bytes) :
    Directory :=
  (directory.insert (certPath config id) chain).insert (keyPath config id) key

theorem lookup_addPair_cert (separate : Separate config) (id : String) (chain key : Bytes) :
    (addPair config directory id chain key).lookup (certPath config id) = some chain := by
  rw [addPair, AList.lookup_insert_ne (certPath_ne_keyPath separate id id), AList.lookup_insert]

theorem lookup_addPair_key (id : String) (chain key : Bytes) :
    (addPair config directory id chain key).lookup (keyPath config id) = some key :=
  AList.lookup_insert _

/-- The files of other ids stay as they are. -/
theorem lookup_addPair_other (separate : Separate config) {id other : String}
    (distinct : other ≠ id) (chain key : Bytes) :
    (addPair config directory id chain key).lookup (certPath config other) =
        directory.lookup (certPath config other) ∧
      (addPair config directory id chain key).lookup (keyPath config other) =
        directory.lookup (keyPath config other) := by
  have other_cert : certPath config other ≠ certPath config id := fun same =>
    distinct (certPath_inj same)
  have other_key : keyPath config other ≠ keyPath config id := fun same =>
    distinct (keyPath_inj same)
  constructor
  · rw [addPair, AList.lookup_insert_ne (certPath_ne_keyPath separate other id),
      AList.lookup_insert_ne other_cert]
  · rw [addPair, AList.lookup_insert_ne other_key,
      AList.lookup_insert_ne (certPath_ne_keyPath separate id other).symm]

theorem OnlyPairs.add (only : OnlyPairs config ids directory) (id : String) (chain key : Bytes) :
    OnlyPairs config (id :: ids) (addPair config directory id chain key) := by
  intro fileName
  rw [addPair, AList.mem_insert, AList.mem_insert, only, List.exists_mem_cons_iff, ← or_assoc,
    @or_comm (fileName = keyPath config id)]

theorem displayPath_inj {first second : String}
    (same : displayPath config first = displayPath config second) : first = second := by
  unfold displayPath Paths.join at same
  rw [← String.toList_inj, String.toList_ofList, String.toList_ofList] at same
  split_ifs at same with root
  · exact String.toList_inj.mp (List.append_cancel_left same)
  · exact String.toList_inj.mp (List.cons.inj (List.append_cancel_left same)).2

/-- The paths of the two files of an id. -/
def pairPaths (config : TlsConfig) (id : String) : List String :=
  [displayPath config (certPath config id), displayPath config (keyPath config id)]

/-- Distinct ids have distinct files. -/
theorem pairPaths_nodup (separate : Separate config) (distinct : ids.Nodup) :
    (ids.flatMap (pairPaths config)).Nodup := by
  rw [List.nodup_flatMap]
  constructor
  · intro id _
    have differ :
        displayPath config (certPath config id) ≠ displayPath config (keyPath config id) :=
      fun same => certPath_ne_keyPath separate id id (displayPath_inj same)
    simpa [pairPaths] using differ
  · refine distinct.imp ?_
    intro first second other path first_path second_path
    simp only [pairPaths, List.mem_cons, List.not_mem_nil, or_false] at first_path second_path
    rcases first_path with rfl | rfl
    · rcases second_path with same | same
      · exact other (certPath_inj (displayPath_inj same))
      · exact certPath_ne_keyPath separate first second (displayPath_inj same)
    · rcases second_path with same | same
      · exact certPath_ne_keyPath separate second first (displayPath_inj same.symm)
      · exact other (keyPath_inj (displayPath_inj same))

/-- A file is decoded to the id and the kind that it was named after. -/
structure Decodes (config : TlsConfig) (id : String) : Prop where
  certificate : Text.stripSuffix config.certSuffix (certPath config id) = some id
  key : Text.stripSuffix config.certSuffix (keyPath config id) = none ∧
    Text.stripSuffix config.keySuffix (keyPath config id) = some id

theorem decodes (separate : Separate config) (id : String) : Decodes config id := by
  refine ⟨Text.stripSuffix_eq_some.mpr rfl, ?_, Text.stripSuffix_eq_some.mpr rfl⟩
  cases cert : Text.stripSuffix config.certSuffix (keyPath config id) with
  | none => rfl
  | some other =>
      have same : keyPath config id = certPath config other := Text.stripSuffix_eq_some.mp cert
      exact absurd same.symm (certPath_ne_keyPath separate other id)

/-- Under a validated configuration the files of distinct ids have distinct paths, each file is
decoded to its own id and kind, and a scan finds exactly the pairs of these ids. -/
theorem file_names_decode {written : TlsConfig} {base : List Char}
    (accepted : written.validate base = .ok config) {field : String}
    (valid : ∀ id ∈ ids, validateCertificateId field id = .ok ()) (distinct : ids.Nodup)
    (only : OnlyPairs config ids directory) (listing : Order String) :
    (ids.flatMap (pairPaths config)).Nodup ∧ (∀ id ∈ ids, Decodes config id) ∧
      ∃ pairs, discoverPairs config listing directory = .ok pairs ∧
        pairs.Perm (ids.map (named config)) := by
  have separate := (naming_of_validate accepted).separate
  have nonempty : "" ∉ ids := by
    intro member
    have empty := valid "" member
    simp [validateCertificateId, bind_eq_ok] at empty
  refine ⟨pairPaths_nodup separate distinct, fun id _ => decodes separate id, ?_⟩
  obtain ⟨pairs, discovered⟩ := (discoverPairs_isOk_iff separate listing directory).mpr
    (only.paired separate nonempty)
  obtain ⟨found, rfl, found_distinct, members⟩ := discoverPairs_pairs separate discovered
  refine ⟨_, discovered, List.Perm.map _ ?_⟩
  rw [List.perm_ext_iff_of_nodup found_distinct distinct]
  intro id
  rw [members, only.certPath_mem separate]

/-! ## Ids that look like files -/

/-- A gateway with the default suffixes. -/
def sampleTls : TlsConfig := { certDir := "/etc/gateway/certs" }

theorem sampleTls_validates : sampleTls.validate [] = .ok sampleTls := by decide +kernel

/-- An id may contain a suffix or be made of dots. -/
def oddIds : List String := ["host.fullchain.pem", "host.key.pem", ".."]

/-- The files of the odd ids. -/
def oddDirectory : Directory :=
  oddIds.foldr (fun id directory => addPair sampleTls directory id [] []) ∅

theorem file_names_decode_odd :
    (oddIds.flatMap (pairPaths sampleTls)).Nodup ∧ (∀ id ∈ oddIds, Decodes sampleTls id) ∧
      ∃ pairs, discoverPairs sampleTls (.same _) oddDirectory = .ok pairs ∧
        pairs.Perm (oddIds.map (named sampleTls)) := by
  have valid : ∀ id ∈ oddIds, validateCertificateId "acme.certificates[0].id" id = .ok () := by
    decide +kernel
  have only : OnlyPairs sampleTls oddIds oddDirectory :=
    ((onlyPairs_empty.add ".." [] []).add "host.key.pem" [] []).add "host.fullchain.pem" [] []
  exact file_names_decode sampleTls_validates valid (by decide) only (.same _)

end EdgeGateway.Tls
