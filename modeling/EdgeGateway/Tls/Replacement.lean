import EdgeGateway.Tls.Resolver

/-!
# Validating a replacement

Before a new pair is written to the directory, its names are checked against those of the pairs
that are loaded.  The check predicts whether the directory loads with the new pair in it.
-/

namespace EdgeGateway.Tls

open EdgeGateway.Configuration Results

variable {Certificate PrivateKey CertifiedKey : Type}

/-- None of the names of a candidate belongs to another certificate. -/
def checkClaims (id other : String) (candidate existing : CertificateMetadata) :
    Except String Unit :=
  candidate.dnsNames.forM fun name =>
    ensure (name ∉ existing.dnsNames)
      ("replacement TLS certificate " ++ id.quote ++ " claims DNS SAN " ++ name.quote ++
        ", already owned by certificate " ++ other.quote)

/-- Check a candidate against one certificate; its own id may keep its names. -/
def checkExisting (id : String) (candidate : CertificateMetadata)
    (entry : String × CertificateMetadata) : Except String Unit :=
  if entry.1 = id then .ok () else checkClaims id entry.1 candidate entry.2

/-- Check a new pair against an index, in the order of its table. -/
def validateReplacement (library : TlsLibrary Certificate PrivateKey CertifiedKey)
    (visiting : Order (String × CertificateMetadata)) (index : CertificateIndex CertifiedKey)
    (id : String) (certificatePem privateKeyPem : Bytes) : Except String CertificateMetadata := do
  let (_, candidate) ← parseCertificatePair library id certificatePem privateKeyPem
  (visiting.arrange (index.metadata.entries.map fun entry => (entry.1, entry.2))).forM
    (checkExisting id candidate)
  return candidate

variable {library : TlsLibrary Certificate PrivateKey CertifiedKey} {config : TlsConfig}
  {directory : Directory} {index next : CertificateIndex CertifiedKey} {id : String}
  {certificatePem privateKeyPem : Bytes} {read : CertifiedKey × CertificateMetadata}

theorem checkClaims_eq_ok {other : String} {candidate existing : CertificateMetadata} :
    checkClaims id other candidate existing = .ok () ↔
      candidate.dnsNames.Disjoint existing.dnsNames := by
  simp only [checkClaims, forM_eq_ok, ensure_eq_ok]
  exact Iff.rfl

/-- A candidate is accepted when no other certificate of the index has one of its names. -/
theorem validateReplacement_eq_ok (visiting : Order (String × CertificateMetadata))
    (parsed : parseCertificatePair library id certificatePem privateKeyPem = .ok read)
    {metadata : CertificateMetadata} :
    validateReplacement library visiting index id certificatePem privateKeyPem = .ok metadata ↔
      metadata = read.2 ∧ ∀ other existing, index.metadata.lookup other = some existing →
        other ≠ id → read.2.dnsNames.Disjoint existing.dnsNames := by
  have checks : ((visiting.arrange
      (index.metadata.entries.map fun entry => (entry.1, entry.2))).forM
        (checkExisting id read.2)) = .ok () ↔
      ∀ other existing, index.metadata.lookup other = some existing →
        other ≠ id → read.2.dnsNames.Disjoint existing.dnsNames := by
    rw [forM_eq_ok]
    simp only [(visiting.perm _).mem_iff, List.mem_map]
    constructor
    · intro checked other existing found distinct
      have entry := checked (other, existing)
        ⟨⟨other, existing⟩, AList.mem_lookup_iff.mp found, rfl⟩
      rw [checkExisting, if_neg distinct] at entry
      exact checkClaims_eq_ok.mp entry
    · intro disjoint item entry
      obtain ⟨⟨other, existing⟩, member, rfl⟩ := entry
      unfold checkExisting
      split_ifs with own
      · rfl
      · exact checkClaims_eq_ok.mpr (disjoint other existing (AList.mem_lookup_iff.mpr member) own)
  rw [← checks]
  simp only [validateReplacement, bind_eq_ok, parsed]
  constructor
  · intro validated
    obtain ⟨_, ⟨⟩, _, checked, same⟩ := validated
    cases same
    exact ⟨rfl, checked⟩
  · intro both
    obtain ⟨rfl, checked⟩ := both
    exact ⟨read, rfl, (), checked, rfl⟩

/-! ## The reload after a replacement -/

/-- What the index after a replacement has of the one before. -/
structure Reloaded (library : TlsLibrary Certificate PrivateKey CertifiedKey) (config : TlsConfig)
    (directory : Directory) (id : String) (candidate : CertificateMetadata)
    (index next : CertificateIndex CertifiedKey) : Prop where
  own : next.metadata.lookup id = some candidate
  others : ∀ other, other ≠ id → next.metadata.lookup other = index.metadata.lookup other
  resolved : ∀ other metadata name, other ≠ id → index.metadata.lookup other = some metadata →
    name ∈ metadata.dnsNames → ∃ key, Certifies library config directory other name key ∧
      resolveServerName index.exact index.wildcard index.default name = some key ∧
      resolveServerName next.exact next.wildcard next.default name = some key
  wildcards : ∀ other metadata suffix, other ≠ id →
    index.metadata.lookup other = some metadata → "*." ++ suffix ∈ metadata.dnsNames →
      next.wildcard.lookup suffix = index.wildcard.lookup suffix

/-- The files of other pairs are read as before. -/
theorem readPair_addPair (separate : Separate config) {other : String} (distinct : other ≠ id) :
    readPair library config (addPair config directory id certificatePem privateKeyPem)
        (named config other) =
      readPair library config directory (named config other) :=
  readPair_congr (lookup_addPair_other separate distinct _ _).1
    (lookup_addPair_other separate distinct _ _).2

theorem readPair_addPair_own (separate : Separate config)
    (parsed : parseCertificatePair library id certificatePem privateKeyPem = .ok read) :
    readPair library config (addPair config directory id certificatePem privateKeyPem)
      (named config id) = .ok read :=
  readPair_named_eq_ok.mpr ⟨certificatePem, privateKeyPem, lookup_addPair_cert separate id _ _,
    lookup_addPair_key id _ _, parsed⟩

theorem reloaded_of_indexes (separate : Separate config)
    (parsed : parseCertificatePair library id certificatePem privateKeyPem = .ok read)
    (before : Indexes library config directory index)
    (after : Indexes library config (addPair config directory id certificatePem privateKeyPem)
      next) :
    Reloaded library config directory id read.2 index next := by
  have own_read : readPair library config
      (addPair config directory id certificatePem privateKeyPem) (named config id) = .ok read :=
    readPair_addPair_own separate parsed
  constructor
  · exact (after.metadata id read.2).mpr ⟨read.1, own_read⟩
  · intro other distinct
    ext metadata
    rw [after.metadata, before.metadata, readPair_addPair separate distinct]
  · intro other metadata name distinct known listed
    obtain ⟨key, other_read⟩ := (before.metadata other metadata).mp known
    have lists : Certifies library config directory other name key := ⟨metadata, other_read, listed⟩
    refine ⟨key, lists, before.resolve_listed lists, ?_⟩
    rw [← readPair_addPair separate distinct] at other_read
    exact after.resolve_listed ⟨metadata, other_read, listed⟩
  · intro other metadata suffix distinct known listed
    obtain ⟨key, other_read⟩ := (before.metadata other metadata).mp known
    have old := (before.wildcard suffix key).mpr ⟨other, metadata, other_read, listed⟩
    rw [← readPair_addPair separate distinct] at other_read
    rw [old]
    exact (after.wildcard suffix key).mpr ⟨other, metadata, other_read, listed⟩

/-- The check of a replacement succeeds exactly when the directory loads with the new pair, and
then the new index has its metadata and everything of the other ids as before. -/
theorem replacement_predicted {written : TlsConfig} {base : List Char}
    (accepted : written.validate base = .ok config) {field : String}
    (id_accepted : validateCertificateId field id = .ok ()) {listing : Order String}
    {visiting : Order Pair}
    (loaded : loadIndex library config listing visiting directory = .ok index)
    (parsed : parseCertificatePair library id certificatePem privateKeyPem = .ok read)
    (checking : Order (String × CertificateMetadata)) (next_listing : Order String)
    (next_visiting : Order Pair) :
    ((∃ metadata, validateReplacement library checking index id certificatePem privateKeyPem =
        .ok metadata) ↔
      ∃ next, loadIndex library config next_listing next_visiting
        (addPair config directory id certificatePem privateKeyPem) = .ok next) ∧
    ∀ next, loadIndex library config next_listing next_visiting
        (addPair config directory id certificatePem privateKeyPem) = .ok next →
      validateReplacement library checking index id certificatePem privateKeyPem = .ok read.2 ∧
        Reloaded library config directory id read.2 index next := by
  have separate := (naming_of_validate accepted).separate
  have before := indexes_of_loadIndex separate loaded
  have loadable := (loadIndex_isOk_iff separate listing visiting directory).mp ⟨index, loaded⟩
  have nonempty : id ≠ "" := by
    simp only [validateCertificateId, bind_eq_ok, ensure_eq_ok, exists_const] at id_accepted
    exact id_accepted.1
  have loads := loadable.replace_iff nonempty parsed
    (lookup_addPair_cert separate id certificatePem privateKeyPem) (lookup_addPair_key id _ _)
    (fun other distinct => (lookup_addPair_other separate distinct _ _).1)
    (fun other distinct => (lookup_addPair_other separate distinct _ _).2)
  have predicts : validateReplacement library checking index id certificatePem privateKeyPem =
      .ok read.2 ↔ Unclaimed library config directory id read.2 := by
    rw [validateReplacement_eq_ok checking parsed]
    constructor
    · intro checked other distinct other_read parses
      exact checked.2 other other_read.2 ((before.metadata _ _).mpr ⟨other_read.1, parses⟩) distinct
    · intro unclaimed
      refine ⟨rfl, fun other existing known distinct => ?_⟩
      obtain ⟨key, parses⟩ := (before.metadata other existing).mp known
      exact unclaimed other distinct (key, existing) parses
  rw [loadIndex_isOk_iff separate, loads, ← predicts]
  refine ⟨⟨?_, fun validated => ⟨read.2, validated⟩⟩, ?_⟩
  · intro validated
    obtain ⟨metadata, validated⟩ := validated
    rwa [((validateReplacement_eq_ok checking parsed).mp validated).1] at validated
  · intro next reloaded
    have unclaimed := loads.mp
      ((loadIndex_isOk_iff separate next_listing next_visiting _).mp ⟨next, reloaded⟩)
    exact ⟨predicts.mpr unclaimed,
      reloaded_of_indexes separate parsed before (indexes_of_loadIndex separate reloaded)⟩

/-- A second certificate for the host is refused, and the directory would not load with it. -/
theorem replacement_predicted_mirror : ∃ index,
    loadIndex sampleLibrary sampleTls (.same _) (.same _) sampleDirectory = .ok index ∧
      ¬ ∃ next, loadIndex sampleLibrary sampleTls (.same _) (.same _)
        (addPair sampleTls sampleDirectory "mirror" SampleCertificate.host.chain
          SampleCertificate.host.privateKey) = .ok next := by
  obtain ⟨index, loaded⟩ := sampleDirectory_loads
  obtain ⟨candidate, parsed, names⟩ := parse_sample "mirror" .host
  have id_accepted : validateCertificateId "acme.certificates[0].id" "mirror" = .ok () := by
    decide +kernel
  have predicted := (replacement_predicted sampleTls_validates id_accepted loaded parsed
    (.same _) (.same _) (.same _)).1
  refine ⟨index, loaded, fun reloads => ?_⟩
  obtain ⟨metadata, validated⟩ := predicted.mpr reloads
  obtain ⟨_, disjoint⟩ := (validateReplacement_eq_ok _ parsed).mp validated
  obtain ⟨existing, read, listed⟩ := read_sample .host
  have indexes := indexes_of_loadIndex (naming_of_validate sampleTls_validates).separate loaded
  have known := (indexes.metadata "host" existing).mpr ⟨.host, read⟩
  have own : SampleCertificate.host.san ∈ candidate.dnsNames := names ▸ List.mem_singleton_self _
  exact disjoint "host" existing known (by decide) own (listed ▸ List.mem_singleton_self _)

end EdgeGateway.Tls
