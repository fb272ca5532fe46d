import EdgeGateway.Configuration.Sections
import EdgeGateway.Library.Reservations
import Mathlib.Data.List.Sort
import Mathlib.Data.String.Basic

/-!
# The certificate store

A directory holds the certificates and the private keys of the gateway, in files that are named
after the id of their pair.  Loading it finds the pairs, parses them and indexes them by their DNS
names; it fails when any file has no partner, any pair does not parse or two pairs share a name.
-/

namespace EdgeGateway.Tls

open EdgeGateway.Configuration Results

/-- The content of a file. -/
abbrev Bytes := List UInt8

/-- The files of a directory, by name. -/
abbrev Directory := Table String Bytes

/-- What the TLS libraries do with the content of files. -/
structure TlsLibrary (Certificate PrivateKey CertifiedKey : Type) where
  /-- The certificates of a text, unless it is malformed. -/
  certs : Bytes → Option (List Certificate)
  /-- The first supported private key of a text, unless it is malformed. -/
  privateKey : Bytes → Option (Option PrivateKey)
  /-- A chain with its private key, when they belong together. -/
  certifiedKey : List Certificate → PrivateKey → Option CertifiedKey
  /-- The alternative DNS names of a certificate, unless it is malformed. -/
  dnsSans : Certificate → Option (List String)

variable {Certificate PrivateKey CertifiedKey : Type}
  (library : TlsLibrary Certificate PrivateKey CertifiedKey) (config : TlsConfig)

/-! ## Names of files -/

/-- The file of a certificate. -/
def certPath (id : String) : String := id ++ config.certSuffix

/-- The file of a private key. -/
def keyPath (id : String) : String := id ++ config.keySuffix

/-- A file of the directory as messages show it. -/
def displayPath (fileName : String) : String :=
  String.ofList (Paths.join config.certDir.toList fileName.toList)

/-! ## Parsing -/

/-- A DNS name without the dots at its end, in lower case. -/
def normalizeSan (name : String) : String :=
  String.ofList ((name.toList.reverse.dropWhile (· = '.')).reverse.map Char.toLower)

/-- Drop the repetitions of a name that follow it directly. -/
def dedup : List String → List String
  | [] => []
  | [name] => [name]
  | name :: next :: rest =>
      if name = next then dedup (next :: rest) else name :: dedup (next :: rest)

/-- Dropping repetitions of a sorted list leaves no name twice. -/
theorem dedup_sorted {names : List String} (sorted : names.Pairwise (· ≤ ·)) :
    (dedup names).Pairwise (· < ·) ∧ ∀ name, name ∈ dedup names ↔ name ∈ names := by
  induction names using dedup.induct with
  | case1 => simp [dedup]
  | case2 name => simp [dedup]
  | case3 next rest ih =>
      obtain ⟨strict, members⟩ := ih sorted.tail
      rw [dedup, if_pos rfl]
      refine ⟨strict, fun other => ?_⟩
      rw [members]
      simp
  | case4 name next rest distinct ih =>
      obtain ⟨strict, members⟩ := ih sorted.tail
      obtain ⟨least, _⟩ := List.pairwise_cons.mp sorted
      obtain ⟨least_rest, _⟩ := List.pairwise_cons.mp sorted.tail
      have first : name < next := lt_of_le_of_ne (least next List.mem_cons_self) distinct
      rw [dedup, if_neg distinct]
      refine ⟨List.pairwise_cons.mpr ⟨?_, strict⟩, ?_⟩
      · intro other member
        rcases List.mem_cons.mp ((members other).mp member) with rfl | later
        · exact first
        · exact first.trans_le (least_rest other later)
      · intro other
        rw [List.mem_cons, members]
        exact List.mem_cons.symm

/-- A certificate as the index keeps it. -/
structure CertificateMetadata where
  dnsNames : List String
  distinct : dnsNames.Nodup

/-- A wildcard stands for the first label and nothing else. -/
def checkSan (id name : String) : Except String Unit :=
  let unsupported := "TLS certificate " ++ id.quote ++ " contains unsupported wildcard SAN " ++
    name.quote
  match Text.stripPrefix "*." name with
  | some suffix => ensure (suffix ≠ "" ∧ '*' ∉ suffix.toList) unsupported
  | none => ensure ('*' ∉ name.toList) unsupported

/-- Read the DNS names of the leaf certificate. -/
def parseLeafMetadata (id : String) (leaf : Certificate) : Except String CertificateMetadata := do
  match library.dnsSans leaf with
  | none => .error ("failed to parse leaf X.509 certificate " ++ id.quote)
  | some sans =>
      let sorted := (sans.map normalizeSan).insertionSort (· ≤ ·)
      ensure (dedup sorted ≠ [])
        ("TLS certificate " ++ id.quote ++ " contains no DNS Subject Alternative Names")
      (dedup sorted).forM (checkSan id)
      return ⟨dedup sorted,
        (dedup_sorted (List.pairwise_insertionSort _ _)).1.imp fun less => less.ne⟩

/-- Parse a chain and its private key. -/
def parseCertificatePair (id : String) (certificateBytes keyBytes : Bytes) :
    Except String (CertifiedKey × CertificateMetadata) :=
  match library.certs certificateBytes with
  | none => .error ("failed to parse TLS certificate chain for " ++ id.quote)
  | some [] => .error ("TLS certificate " ++ id.quote ++ " contains no certificates")
  | some (leaf :: chain) =>
      match library.privateKey keyBytes with
      | none => .error ("failed to parse TLS private key for " ++ id.quote)
      | some none =>
          .error ("TLS private key " ++ id.quote ++ " contains no supported private key")
      | some (some privateKey) =>
          match library.certifiedKey (leaf :: chain) privateKey with
          | none =>
              .error ("TLS certificate and private key for " ++ id.quote ++ " are incompatible")
          | some certifiedKey =>
              (parseLeafMetadata library id leaf).map fun metadata => (certifiedKey, metadata)

/-! ## Finding the pairs -/

/-- The order in which a listing or a table is visited. -/
structure Order (Item : Type) where
  arrange : List Item → List Item
  perm : ∀ items, (arrange items).Perm items

/-- Visit in the order of the table. -/
def Order.same (Item : Type) : Order Item := ⟨id, fun _ => .refl _⟩

/-- The files that a scan has found, by the id in their name. -/
structure Discovered where
  certs : Table String String
  keys : Table String String

/-- Take up one file of the directory. -/
def discoverFile (found : Discovered) (fileName : String) : Except String Discovered :=
  match Text.stripSuffix config.certSuffix fileName with
  | some id => do
      ensure (id ≠ "")
        ("TLS certificate filename " ++ fileName.quote ++ " has an empty certificate id")
      ensure (id ∉ found.certs) ("duplicate TLS certificate id " ++ id.quote)
      return { found with certs := found.certs.insert id fileName }
  | none =>
      match Text.stripSuffix config.keySuffix fileName with
      | some id => do
          ensure (id ≠ "")
            ("TLS key filename " ++ fileName.quote ++ " has an empty certificate id")
          ensure (id ∉ found.keys) ("duplicate TLS key id " ++ id.quote)
          return { found with keys := found.keys.insert id fileName }
      | none => return found

/-- An id with the files of its certificate and of its private key. -/
abbrev Pair := String × String × String

/-- The files of one id. -/
def pairUp (found : Discovered) (id : String) : Except String Pair :=
  match found.certs.lookup id with
  | none => .error ("TLS private key " ++ id.quote ++ " has no matching certificate")
  | some certPath =>
      match found.keys.lookup id with
      | none => .error ("TLS certificate " ++ id.quote ++ " has no matching private key")
      | some keyPath => .ok (id, certPath, keyPath)

/-- The pairs of a directory, by id. -/
def discoverPairs (listing : Order String) (directory : Directory) : Except String (List Pair) := do
  let found ← (listing.arrange directory.keys).foldlM (discoverFile config) ⟨∅, ∅⟩
  let ids := (found.certs.keys ∪ found.keys.keys).insertionSort (· ≤ ·)
  ids.mapM (pairUp found)

/-! ## Loading -/

/-- The certificates by their names, and what is known of each. -/
structure CertificateIndex (CertifiedKey : Type) where
  exact : Table String CertifiedKey
  wildcard : Table String CertifiedKey
  default : Option CertifiedKey
  metadata : Table String CertificateMetadata

/-- An index under construction. -/
structure Loading (CertifiedKey : Type) where
  exact : Table String CertifiedKey := ∅
  wildcard : Table String CertifiedKey := ∅
  metadata : Table String CertificateMetadata := ∅
  keysById : Table String CertifiedKey := ∅

/-- Enter a certificate under one of its names. -/
def addName (certifiedKey : CertifiedKey) (loading : Loading CertifiedKey) (name : String) :
    Except String (Loading CertifiedKey) :=
  match Text.stripPrefix "*." name with
  | some suffix => do
      ensure (suffix ∉ loading.wildcard)
        ("more than one TLS certificate claims wildcard SAN " ++ name.quote)
      return { loading with wildcard := loading.wildcard.insert suffix certifiedKey }
  | none => do
      ensure (name ∉ loading.exact)
        ("more than one TLS certificate claims DNS SAN " ++ name.quote)
      return { loading with exact := loading.exact.insert name certifiedKey }

/-- Read a file that the scan has found. -/
def readFile (directory : Directory) (kind path : String) : Except String Bytes :=
  match directory.lookup path with
  | none => .error ("failed to read TLS " ++ kind ++ " " ++ displayPath config path)
  | some bytes => .ok bytes

/-- Read and parse a pair. -/
def readPair (directory : Directory) (pair : Pair) :
    Except String (CertifiedKey × CertificateMetadata) := do
  let certificateBytes ← readFile config directory "certificate" pair.2.1
  let keyBytes ← readFile config directory "private key" pair.2.2
  parseCertificatePair library pair.1 certificateBytes keyBytes

/-- Load one pair. -/
def loadPair (directory : Directory) (loading : Loading CertifiedKey) (pair : Pair) :
    Except String (Loading CertifiedKey) := do
  let (certifiedKey, parsed) ← readPair library config directory pair
  let loading ← parsed.dnsNames.foldlM (addName certifiedKey) loading
  return { loading with
    keysById := loading.keysById.insert pair.1 certifiedKey
    metadata := loading.metadata.insert pair.1 parsed }

/-- Load a directory. -/
def loadIndex (listing : Order String) (visiting : Order Pair) (directory : Directory) :
    Except String (CertificateIndex CertifiedKey) := do
  let pairs ← discoverPairs config listing directory
  let loading ← (visiting.arrange pairs).foldlM (loadPair library config directory) {}
  return {
    exact := loading.exact
    wildcard := loading.wildcard
    default := config.defaultCertificate.bind fun id => loading.keysById.lookup id
    metadata := loading.metadata }

/-! ## What a scan finds -/

/-- No name ends in both suffixes. -/
def Separate : Prop :=
  ¬ config.keySuffix.toList <:+ config.certSuffix.toList ∧
    ¬ config.certSuffix.toList <:+ config.keySuffix.toList

variable {config}

/-- What the configuration guarantees about the suffixes. -/
structure Naming (config : TlsConfig) : Prop where
  cert_nonempty : config.certSuffix ≠ ""
  cert_plain : '/' ∉ config.certSuffix.toList
  key_nonempty : config.keySuffix ≠ ""
  key_plain : '/' ∉ config.keySuffix.toList
  separate : Separate config

theorem naming_of_validate {written : TlsConfig} {directory : List Char}
    (accepted : written.validate directory = .ok config) : Naming config := by
  obtain ⟨_, _, accepted⟩ := bind_eq_ok.mp accepted
  obtain ⟨_, cert, accepted⟩ := bind_eq_ok.mp accepted
  obtain ⟨_, key, accepted⟩ := bind_eq_ok.mp accepted
  obtain ⟨_, separate, accepted⟩ := bind_eq_ok.mp accepted
  have same : config.certSuffix = written.certSuffix ∧ config.keySuffix = written.keySuffix := by
    cases chosen : written.defaultCertificate with
    | none =>
        rw [chosen] at accepted
        cases accepted
        exact ⟨rfl, rfl⟩
    | some id =>
        rw [chosen] at accepted
        obtain ⟨_, _, accepted⟩ := bind_eq_ok.mp accepted
        cases accepted
        exact ⟨rfl, rfl⟩
  simp only [validateSuffix, bind_eq_ok, ensure_eq_ok, exists_const] at cert key separate
  constructor
  · exact same.1 ▸ cert.1
  · exact same.1 ▸ cert.2.1
  · exact same.2 ▸ key.1
  · exact same.2 ▸ key.2.1
  · rw [Separate, same.1, same.2]
    exact separate.2

theorem certPath_inj {first second : String}
    (same : certPath config first = certPath config second) :
    first = second := by
  rw [certPath, certPath, ← String.toList_inj, String.toList_append, String.toList_append,
    List.append_cancel_right_eq, String.toList_inj] at same
  exact same

theorem keyPath_inj {first second : String} (same : keyPath config first = keyPath config second) :
    first = second := by
  rw [keyPath, keyPath, ← String.toList_inj, String.toList_append, String.toList_append,
    List.append_cancel_right_eq, String.toList_inj] at same
  exact same

theorem certPath_ne_keyPath (separate : Separate config) (first second : String) :
    certPath config first ≠ keyPath config second := by
  intro same
  have certs : config.certSuffix.toList <:+ (certPath config first).toList :=
    ⟨first.toList, by rw [certPath, String.toList_append]⟩
  have keys : config.keySuffix.toList <:+ (certPath config first).toList :=
    ⟨second.toList, by rw [same, keyPath, String.toList_append]⟩
  rcases List.suffix_or_suffix_of_suffix certs keys with ends | ends
  · exact separate.2 ends
  · exact separate.1 ends

/-- The table has exactly the names that an id gives, under that id. -/
def Lists (naming : String → String) (names : List String) (table : Table String String) : Prop :=
  ∀ id path, table.lookup id = some path ↔ path ∈ names ∧ path = naming id

variable {naming : String → String} {names : List String} {table : Table String String}

theorem Lists.unknown (lists : Lists naming names table) {id : String}
    (fresh : naming id ∉ names) : id ∉ table := by
  intro known
  obtain ⟨path, found⟩ := Table.mem_iff_lookup.mp known
  obtain ⟨member, rfl⟩ := (lists id path).mp found
  exact fresh member

theorem Lists.add (lists : Lists naming names table)
    (injective : ∀ {first second}, naming first = naming second → first = second) (id : String) :
    Lists naming (naming id :: names) (table.insert id (naming id)) := by
  intro other path
  by_cases same : other = id
  · subst same
    rw [AList.lookup_insert, Option.some.injEq, List.mem_cons]
    constructor
    · rintro rfl
      exact ⟨.inl rfl, rfl⟩
    · rintro ⟨_, rfl⟩
      rfl
  · rw [AList.lookup_insert_ne same, lists, List.mem_cons]
    constructor
    · exact fun ⟨member, named⟩ => ⟨.inr member, named⟩
    · rintro ⟨rfl | member, named⟩
      · exact absurd (injective named.symm) same
      · exact ⟨member, named⟩

theorem Lists.skip (lists : Lists naming names table) {fileName : String}
    (other : ∀ id, fileName ≠ naming id) : Lists naming (fileName :: names) table := by
  intro id path
  rw [lists, List.mem_cons]
  constructor
  · exact fun ⟨member, named⟩ => ⟨.inr member, named⟩
  · rintro ⟨rfl | member, named⟩
    · exact absurd named (other id)
    · exact ⟨member, named⟩

/-- The scan has found exactly the certificates and the private keys among some names. -/
structure Found (config : TlsConfig) (names : List String) (found : Discovered) : Prop where
  certs : Lists (certPath config) names found.certs
  keys : Lists (keyPath config) names found.keys

/-- A new file is taken up unless its name is nothing but a suffix. -/
theorem discoverFile_found (separate : Separate config) {found : Discovered}
    (before : Found config names found) {fileName : String} (fresh : fileName ∉ names) :
    ((∃ next, discoverFile config found fileName = .ok next) ↔
      fileName ≠ certPath config "" ∧ fileName ≠ keyPath config "") ∧
      ∀ next, discoverFile config found fileName = .ok next →
        Found config (fileName :: names) next := by
  cases cert : Text.stripSuffix config.certSuffix fileName with
  | some id =>
      obtain rfl : fileName = certPath config id := Text.stripSuffix_eq_some.mp cert
      have not_key := certPath_ne_keyPath separate id
      simp only [discoverFile, cert, bind_eq_ok, ensure_eq_ok, exists_const]
      constructor
      · constructor
        · rintro ⟨_, nonempty, _⟩
          exact ⟨fun same => nonempty (certPath_inj same), not_key ""⟩
        · rintro ⟨nonempty, _⟩
          refine ⟨_, ?_, before.certs.unknown fresh, rfl⟩
          rintro rfl
          exact nonempty rfl
      · rintro _ ⟨_, _, ⟨⟩⟩
        exact ⟨before.certs.add certPath_inj id, before.keys.skip not_key⟩
  | none =>
      have not_cert (id : String) : fileName ≠ certPath config id := by
        intro named
        rw [Text.stripSuffix_eq_some.mpr named] at cert
        cases cert
      cases key : Text.stripSuffix config.keySuffix fileName with
      | some id =>
          obtain rfl : fileName = keyPath config id := Text.stripSuffix_eq_some.mp key
          simp only [discoverFile, cert, key, bind_eq_ok, ensure_eq_ok, exists_const]
          constructor
          · constructor
            · rintro ⟨_, nonempty, _⟩
              exact ⟨not_cert "", fun same => nonempty (keyPath_inj same)⟩
            · rintro ⟨_, nonempty⟩
              refine ⟨_, ?_, before.keys.unknown fresh, rfl⟩
              rintro rfl
              exact nonempty rfl
          · rintro _ ⟨_, _, ⟨⟩⟩
            exact ⟨before.certs.skip not_cert, before.keys.add keyPath_inj id⟩
      | none =>
          have not_key (id : String) : fileName ≠ keyPath config id := by
            intro named
            rw [Text.stripSuffix_eq_some.mpr named] at key
            cases key
          simp only [discoverFile, cert, key]
          refine ⟨⟨fun _ => ⟨not_cert "", not_key ""⟩, fun _ => ⟨found, rfl⟩⟩, ?_⟩
          rintro _ ⟨⟩
          exact ⟨before.certs.skip not_cert, before.keys.skip not_key⟩

/-- A scan of distinct names succeeds unless one of them is nothing but a suffix. -/
theorem discoverFiles_found (separate : Separate config) {seen fresh : List String}
    {found : Discovered} (before : Found config seen found) (distinct : fresh.Nodup)
    (unseen : ∀ fileName ∈ fresh, fileName ∉ seen) :
    ((∃ next, fresh.foldlM (discoverFile config) found = .ok next) ↔
      certPath config "" ∉ fresh ∧ keyPath config "" ∉ fresh) ∧
      ∀ next, fresh.foldlM (discoverFile config) found = .ok next →
        Found config (fresh.reverse ++ seen) next := by
  induction fresh generalizing seen found with
  | nil =>
      refine ⟨⟨fun _ => by simp, fun _ => ⟨found, rfl⟩⟩, ?_⟩
      rintro _ ⟨⟩
      exact before
  | cons fileName rest ih =>
      rw [List.nodup_cons] at distinct
      rw [List.forall_mem_cons] at unseen
      obtain ⟨succeeds, finds⟩ := discoverFile_found separate before unseen.1
      have unseen_rest : ∀ other ∈ rest, other ∉ fileName :: seen := by
        intro other member
        rw [List.mem_cons, not_or]
        exact ⟨fun same => distinct.1 (same ▸ member), unseen.2 other member⟩
      rw [List.foldlM_cons]
      constructor
      · constructor
        · rintro ⟨next, scanned⟩
          obtain ⟨middle, first, later⟩ := bind_eq_ok.mp scanned
          obtain ⟨not_cert, not_key⟩ := succeeds.mp ⟨middle, first⟩
          obtain ⟨no_cert, no_key⟩ :=
            (ih (finds middle first) distinct.2 unseen_rest).1.mp ⟨next, later⟩
          rw [List.mem_cons, List.mem_cons, not_or, not_or]
          exact ⟨⟨not_cert.symm, no_cert⟩, not_key.symm, no_key⟩
        · rw [List.mem_cons, List.mem_cons, not_or, not_or]
          rintro ⟨⟨not_cert, no_cert⟩, not_key, no_key⟩
          obtain ⟨middle, first⟩ := succeeds.mpr ⟨Ne.symm not_cert, Ne.symm not_key⟩
          obtain ⟨next, later⟩ :=
            (ih (finds middle first) distinct.2 unseen_rest).1.mpr ⟨no_cert, no_key⟩
          exact ⟨next, bind_eq_ok.mpr ⟨middle, first, later⟩⟩
      · intro next scanned
        obtain ⟨middle, first, later⟩ := bind_eq_ok.mp scanned
        rw [List.reverse_cons, List.append_assoc]
        exact (ih (finds middle first) distinct.2 unseen_rest).2 next later

theorem Lists.mem_iff (lists : Lists naming names table) {id : String} :
    id ∈ table ↔ naming id ∈ names := by
  rw [Table.mem_iff_lookup]
  constructor
  · rintro ⟨path, found⟩
    obtain ⟨member, rfl⟩ := (lists id path).mp found
    exact member
  · intro member
    exact ⟨naming id, (lists id _).mpr ⟨member, rfl⟩⟩

/-- What a scan of a directory finds. -/
theorem scan_found (separate : Separate config) (listing : Order String) (directory : Directory) :
    ((∃ found, (listing.arrange directory.keys).foldlM (discoverFile config) ⟨∅, ∅⟩ = .ok found) ↔
      certPath config "" ∉ directory ∧ keyPath config "" ∉ directory) ∧
      ∀ found, (listing.arrange directory.keys).foldlM (discoverFile config) ⟨∅, ∅⟩ = .ok found →
        Found config directory.keys found := by
  have listed := listing.perm directory.keys
  have none_before : Found config [] ⟨∅, ∅⟩ :=
    ⟨fun id path => by simp, fun id path => by simp⟩
  obtain ⟨succeeds, finds⟩ := discoverFiles_found separate none_before
    (listed.nodup_iff.mpr directory.keys_nodup) (fun _ _ => List.not_mem_nil)
  constructor
  · rw [succeeds, listed.mem_iff, listed.mem_iff, AList.mem_keys, AList.mem_keys]
  · intro found scanned
    obtain ⟨certs, keys⟩ := finds found scanned
    have same (path : String) :
        path ∈ (listing.arrange directory.keys).reverse ++ [] ↔ path ∈ directory.keys := by
      rw [List.append_nil, List.mem_reverse, listed.mem_iff]
    constructor
    · intro id path
      rw [certs, same]
    · intro id path
      rw [keys, same]

theorem pairUp_eq_ok {found : Discovered} (finds : Found config names found) {id : String}
    {pair : Pair} :
    pairUp found id = .ok pair ↔ pair = (id, certPath config id, keyPath config id) ∧
      certPath config id ∈ names ∧ keyPath config id ∈ names := by
  rw [pairUp]
  cases cert : found.certs.lookup id with
  | none =>
      rw [AList.lookup_eq_none, finds.certs.mem_iff] at cert
      simp [cert]
  | some path =>
      obtain ⟨cert_member, rfl⟩ := (finds.certs id path).mp cert
      cases key : found.keys.lookup id with
      | none =>
          rw [AList.lookup_eq_none, finds.keys.mem_iff] at key
          simp [key]
      | some path =>
          obtain ⟨key_member, rfl⟩ := (finds.keys id path).mp key
          simp [cert_member, key_member, eq_comm]

/-- Every certificate has its private key, and no name is nothing but a suffix. -/
structure Paired (config : TlsConfig) (directory : Directory) : Prop where
  cert_named : certPath config "" ∉ directory
  key_named : keyPath config "" ∉ directory
  partner : ∀ id, certPath config id ∈ directory ↔ keyPath config id ∈ directory

theorem mem_ids {found : Discovered} (finds : Found config names found) {id : String} :
    id ∈ (found.certs.keys ∪ found.keys.keys).insertionSort (· ≤ ·) ↔
      certPath config id ∈ names ∨ keyPath config id ∈ names := by
  rw [List.mem_insertionSort, List.mem_union_iff, ← AList.mem_keys, ← AList.mem_keys,
    finds.certs.mem_iff, finds.keys.mem_iff]

theorem discoverPairs_isOk_iff (separate : Separate config) (listing : Order String)
    (directory : Directory) :
    (∃ pairs, discoverPairs config listing directory = .ok pairs) ↔ Paired config directory := by
  obtain ⟨succeeds, finds⟩ := scan_found separate listing directory
  constructor
  · rintro ⟨pairs, discovered⟩
    obtain ⟨found, scanned, paired⟩ := bind_eq_ok.mp discovered
    obtain ⟨cert_named, key_named⟩ := succeeds.mp ⟨found, scanned⟩
    refine ⟨cert_named, key_named, fun id => ?_⟩
    rw [AList.mem_keys, AList.mem_keys]
    have both := mapM_isOk_iff.mp ⟨pairs, paired⟩ id
    rw [mem_ids (finds found scanned)] at both
    constructor
    · intro cert
      obtain ⟨pair, up⟩ := both (.inl cert)
      exact ((pairUp_eq_ok (finds found scanned)).mp up).2.2
    · intro key
      obtain ⟨pair, up⟩ := both (.inr key)
      exact ((pairUp_eq_ok (finds found scanned)).mp up).2.1
  · rintro ⟨cert_named, key_named, partner⟩
    obtain ⟨found, scanned⟩ := succeeds.mpr ⟨cert_named, key_named⟩
    have both : ∀ id ∈ (found.certs.keys ∪ found.keys.keys).insertionSort (· ≤ ·),
        ∃ pair, pairUp found id = .ok pair := by
      intro id member
      rw [mem_ids (finds found scanned), ← AList.mem_keys, ← AList.mem_keys, ← partner, or_self]
        at member
      refine ⟨_, (pairUp_eq_ok (finds found scanned)).mpr ⟨rfl, ?_⟩⟩
      rw [← AList.mem_keys, ← AList.mem_keys]
      exact ⟨member, (partner id).mp member⟩
    obtain ⟨pairs, paired⟩ := mapM_isOk_iff.mpr both
    exact ⟨pairs, bind_eq_ok.mpr ⟨found, scanned, paired⟩⟩

/-- An id with the files that belong to it. -/
def named (config : TlsConfig) (id : String) : Pair := (id, certPath config id, keyPath config id)

theorem pairs_eq_map {found : Discovered} (finds : Found config names found) {ids : List String}
    {pairs : List Pair}
    (paired : List.Forall₂ (fun id pair => pairUp found id = .ok pair) ids pairs) :
    pairs = ids.map (named config) := by
  induction paired with
  | nil => rfl
  | cons up _ ih =>
      rw [List.map_cons, ← ih, ((pairUp_eq_ok finds).mp up).1]
      rfl

/-- The pairs of a directory are those of its certificates, each of them once. -/
theorem discoverPairs_pairs (separate : Separate config) {listing : Order String}
    {directory : Directory} {pairs : List Pair}
    (discovered : discoverPairs config listing directory = .ok pairs) :
    ∃ ids : List String, pairs = ids.map (named config) ∧ ids.Nodup ∧
      ∀ id, id ∈ ids ↔ certPath config id ∈ directory := by
  have partner :=
    ((discoverPairs_isOk_iff separate listing directory).mp ⟨pairs, discovered⟩).partner
  obtain ⟨found, scanned, paired⟩ := bind_eq_ok.mp discovered
  have finds := (scan_found separate listing directory).2 found scanned
  refine ⟨_, pairs_eq_map finds (mapM_eq_ok.mp paired), ?_, fun id => ?_⟩
  · rw [(List.perm_insertionSort _ _).nodup_iff]
    exact List.Nodup.union _ found.keys.keys_nodup
  · rw [mem_ids finds, ← AList.mem_keys, ← AList.mem_keys, ← partner, or_self]

/-! ## What is loaded -/

/-- A certificate is entered under the name. -/
def Loading.Owns (loading : Loading CertifiedKey) (name : String) : Prop :=
  match Text.stripPrefix "*." name with
  | some suffix => suffix ∈ loading.wildcard
  | none => name ∈ loading.exact

/-- Entering a name takes it, and only it. -/
theorem addName_reserves (certifiedKey : CertifiedKey) :
    Reservations.Reserves Loading.Owns (addName certifiedKey) := by
  constructor
  · intro loading name next added
    unfold addName at added
    unfold Loading.Owns
    cases wild : Text.stripPrefix "*." name with
    | some suffix =>
        simp only [wild, bind_eq_ok, ensure_eq_ok, exists_const] at added
        exact added.1
    | none =>
        simp only [wild, bind_eq_ok, ensure_eq_ok, exists_const] at added
        exact added.1
  · intro loading name free
    unfold Loading.Owns at free
    unfold addName
    cases wild : Text.stripPrefix "*." name with
    | some suffix =>
        rw [wild] at free
        simp only [bind_eq_ok, ensure_eq_ok, exists_const]
        exact ⟨_, free, rfl⟩
    | none =>
        rw [wild] at free
        simp only [bind_eq_ok, ensure_eq_ok, exists_const]
        exact ⟨_, free, rfl⟩
  · intro loading name next added other
    unfold addName at added
    unfold Loading.Owns
    cases wild : Text.stripPrefix "*." name with
    | some suffix =>
        simp only [wild, bind_eq_ok, ensure_eq_ok, exists_const] at added
        obtain ⟨_, ⟨⟩⟩ := added
        cases other_wild : Text.stripPrefix "*." other with
        | some other_suffix =>
            have same : other = name ↔ other_suffix = suffix := by
              rw [Text.stripPrefix_eq_some.mp wild, Text.stripPrefix_eq_some.mp other_wild,
                ← String.toList_inj, String.toList_append, String.toList_append,
                List.append_cancel_left_eq, String.toList_inj]
            simp only [AList.mem_insert, same]
        | none =>
            have distinct : other ≠ name := by
              rintro rfl
              rw [wild] at other_wild
              cases other_wild
            simp only [distinct, false_or]
    | none =>
        simp only [wild, bind_eq_ok, ensure_eq_ok, exists_const] at added
        obtain ⟨_, ⟨⟩⟩ := added
        cases other_wild : Text.stripPrefix "*." other with
        | some other_suffix =>
            have distinct : other ≠ name := by
              rintro rfl
              rw [wild] at other_wild
              cases other_wild
            simp only [distinct, false_or]
        | none => simp only [AList.mem_insert]

variable {library}

/-- A pair is loaded when it parses and nobody owns its names. -/
theorem loadPair_eq_ok {directory : Directory} {loading : Loading CertifiedKey} {pair : Pair} :
    ((∃ next, loadPair library config directory loading pair = .ok next) ↔
      ∃ read, readPair library config directory pair = .ok read ∧
        ∀ name ∈ read.2.dnsNames, ¬ loading.Owns name) ∧
      ∀ next, loadPair library config directory loading pair = .ok next →
        ∃ read, readPair library config directory pair = .ok read ∧
          ∀ name, next.Owns name ↔ name ∈ read.2.dnsNames ∨ loading.Owns name := by
  have enters (read : CertifiedKey × CertificateMetadata) :=
    (addName_reserves read.1).foldlM_isOk_iff read.2.dnsNames loading
  constructor
  · constructor
    · rintro ⟨next, loaded⟩
      obtain ⟨read, parsed, entered⟩ := bind_eq_ok.mp loaded
      obtain ⟨middle, named, _⟩ := bind_eq_ok.mp entered
      exact ⟨read, parsed, ((enters read).mp ⟨middle, named⟩).2⟩
    · rintro ⟨read, parsed, free⟩
      obtain ⟨middle, named⟩ := (enters read).mpr ⟨read.2.distinct, free⟩
      exact ⟨_, bind_eq_ok.mpr ⟨read, parsed, bind_eq_ok.mpr ⟨middle, named, rfl⟩⟩⟩
  · intro next loaded
    obtain ⟨read, parsed, entered⟩ := bind_eq_ok.mp loaded
    obtain ⟨middle, named, same⟩ := bind_eq_ok.mp entered
    cases same
    have owned := fun name => (addName_reserves read.1).taken_foldlM named name
    exact ⟨read, parsed, fun name => owned name⟩

/-- Two pairs that parse have no name in common. -/
def Unshared (library : TlsLibrary Certificate PrivateKey CertifiedKey) (config : TlsConfig)
    (directory : Directory) (first second : Pair) : Prop :=
  ∀ one other, readPair library config directory first = .ok one →
    readPair library config directory second = .ok other →
    one.2.dnsNames.Disjoint other.2.dnsNames

theorem Unshared.symm {directory : Directory} {first second : Pair}
    (unshared : Unshared library config directory first second) :
    Unshared library config directory second first :=
  fun one other second_read first_read => (unshared other one first_read second_read).symm

/-- Pairs load when each of them parses and no two of them share a name. -/
theorem loadPairs_isOk_iff {directory : Directory} (pairs : List Pair)
    (loading : Loading CertifiedKey) :
    (∃ result, pairs.foldlM (loadPair library config directory) loading = .ok result) ↔
      (∀ pair ∈ pairs, ∃ read, readPair library config directory pair = .ok read ∧
        ∀ name ∈ read.2.dnsNames, ¬ loading.Owns name) ∧
      pairs.Pairwise (Unshared library config directory) := by
  induction pairs generalizing loading with
  | nil => simp [pure, Except.pure]
  | cons pair rest ih =>
      obtain ⟨succeeds, owns⟩ := @loadPair_eq_ok _ _ _ library config directory loading pair
      rw [List.foldlM_cons, List.forall_mem_cons, List.pairwise_cons]
      constructor
      · rintro ⟨result, loaded⟩
        obtain ⟨middle, first, later⟩ := bind_eq_ok.mp loaded
        obtain ⟨read, parsed, owns_middle⟩ := owns middle first
        obtain ⟨each, distinct⟩ := (ih middle).mp ⟨result, later⟩
        refine ⟨⟨succeeds.mp ⟨middle, first⟩, ?_⟩, ?_, distinct⟩
        · intro other member
          obtain ⟨other_read, other_parsed, free⟩ := each other member
          exact ⟨other_read, other_parsed, fun name listed owned =>
            free name listed ((owns_middle name).mpr (.inr owned))⟩
        · intro other member one another own_parsed other_parsed
          cases parsed.symm.trans own_parsed
          obtain ⟨other_read, again, free⟩ := each other member
          cases again.symm.trans other_parsed
          exact fun name listed again => free name again ((owns_middle name).mpr (.inl listed))
      · rintro ⟨⟨free, each⟩, disjoint, distinct⟩
        obtain ⟨middle, first⟩ := succeeds.mpr free
        obtain ⟨read, parsed, owns_middle⟩ := owns middle first
        have each_middle : ∀ other ∈ rest, ∃ other_read,
            readPair library config directory other = .ok other_read ∧
              ∀ name ∈ other_read.2.dnsNames, ¬ middle.Owns name := by
          intro other member
          obtain ⟨other_read, other_parsed, other_free⟩ := each other member
          refine ⟨other_read, other_parsed, fun name listed owned => ?_⟩
          rcases (owns_middle name).mp owned with again | before
          · exact disjoint other member read other_read parsed other_parsed again listed
          · exact other_free name listed before
        obtain ⟨result, later⟩ := (ih middle).mpr ⟨each_middle, distinct⟩
        exact ⟨result, bind_eq_ok.mpr ⟨middle, first, later⟩⟩

/-- A directory that loads: its files are paired, each pair parses and no two share a name. -/
structure Loadable (library : TlsLibrary Certificate PrivateKey CertifiedKey) (config : TlsConfig)
    (directory : Directory) : Prop where
  paired : Paired config directory
  parsed : ∀ id, certPath config id ∈ directory →
    ∃ read, readPair library config directory (named config id) = .ok read
  unshared : ∀ first second, first ≠ second →
    Unshared library config directory (named config first) (named config second)

theorem readFile_eq_ok {directory : Directory} {kind path : String} {bytes : Bytes} :
    readFile config directory kind path = .ok bytes ↔ directory.lookup path = some bytes := by
  rw [readFile]
  cases directory.lookup path with
  | none => simp
  | some content => simp

theorem readPair_named_eq_ok {directory : Directory} {id : String}
    {read : CertifiedKey × CertificateMetadata} :
    readPair library config directory (named config id) = .ok read ↔
      ∃ certificateBytes keyBytes, directory.lookup (certPath config id) = some certificateBytes ∧
        directory.lookup (keyPath config id) = some keyBytes ∧
        parseCertificatePair library id certificateBytes keyBytes = .ok read := by
  simp only [readPair, named, bind_eq_ok, readFile_eq_ok]
  constructor
  · rintro ⟨certificateBytes, cert, keyBytes, key, parsed⟩
    exact ⟨certificateBytes, keyBytes, cert, key, parsed⟩
  · rintro ⟨certificateBytes, keyBytes, cert, key, parsed⟩
    exact ⟨certificateBytes, cert, keyBytes, key, parsed⟩

theorem certPath_mem_of_readPair {directory : Directory} {id : String}
    {read : CertifiedKey × CertificateMetadata}
    (parsed : readPair library config directory (named config id) = .ok read) :
    certPath config id ∈ directory := by
  obtain ⟨certificateBytes, _, cert, _⟩ := readPair_named_eq_ok.mp parsed
  exact Table.mem_iff_lookup.mpr ⟨certificateBytes, cert⟩

theorem not_owns_empty (name : String) : ¬ ({} : Loading CertifiedKey).Owns name := by
  unfold Loading.Owns
  cases Text.stripPrefix "*." name with
  | some suffix => exact AList.notMem_empty suffix
  | none => exact AList.notMem_empty name

/-- The pairs of distinct ids load when each parses and no two of them share a name. -/
theorem loadNamed_isOk_iff (visiting : Order Pair) (directory : Directory) {ids : List String}
    (distinct : ids.Nodup) :
    (∃ loading, (visiting.arrange (ids.map (named config))).foldlM
        (loadPair library config directory) {} = .ok loading) ↔
      (∀ id ∈ ids, ∃ read, readPair library config directory (named config id) = .ok read) ∧
      ∀ first ∈ ids, ∀ second ∈ ids, first ≠ second →
        Unshared library config directory (named config first) (named config second) := by
  have perm := visiting.perm (ids.map (named config))
  have : Std.Symm fun first second =>
      Unshared library config directory (named config first) (named config second) :=
    ⟨fun _ _ => Unshared.symm⟩
  rw [loadPairs_isOk_iff, perm.pairwise_iff Unshared.symm, List.pairwise_map]
  refine and_congr ?_ ?_
  · simp only [perm.mem_iff, List.forall_mem_map, not_owns_empty, not_false_eq_true, implies_true,
      and_true]
  · constructor
    · intro pairwise first first_member second second_member other
      exact pairwise.forall first_member second_member other
    · intro unshared
      exact distinct.pairwise_of_forall_ne fun first first_member second second_member =>
        unshared first first_member second second_member

/-- Loading succeeds on the loadable directories, in whatever order it visits them. -/
theorem loadIndex_isOk_iff (separate : Separate config) (listing : Order String)
    (visiting : Order Pair) (directory : Directory) :
    (∃ index, loadIndex library config listing visiting directory = .ok index) ↔
      Loadable library config directory := by
  constructor
  · rintro ⟨index, loaded⟩
    obtain ⟨pairs, discovered, loaded⟩ := bind_eq_ok.mp loaded
    obtain ⟨loading, entered, _⟩ := bind_eq_ok.mp loaded
    obtain ⟨ids, rfl, distinct, members⟩ := discoverPairs_pairs separate discovered
    obtain ⟨parsed, unshared⟩ :=
      (loadNamed_isOk_iff visiting directory distinct).mp ⟨loading, entered⟩
    refine ⟨(discoverPairs_isOk_iff separate listing directory).mp ⟨_, discovered⟩,
      fun id member => parsed id ((members id).mpr member), ?_⟩
    intro first second other one another first_read second_read
    refine unshared first ?_ second ?_ other one another first_read second_read
    · exact (members first).mpr (certPath_mem_of_readPair first_read)
    · exact (members second).mpr (certPath_mem_of_readPair second_read)
  · rintro ⟨paired, parsed, unshared⟩
    obtain ⟨pairs, discovered⟩ := (discoverPairs_isOk_iff separate listing directory).mpr paired
    obtain ⟨ids, rfl, distinct, members⟩ := discoverPairs_pairs separate discovered
    obtain ⟨loading, entered⟩ := (loadNamed_isOk_iff visiting directory distinct).mpr
      ⟨fun id member => parsed id ((members id).mp member),
        fun first _ second _ => unshared first second⟩
    exact ⟨_, bind_eq_ok.mpr ⟨_, discovered, bind_eq_ok.mpr ⟨loading, entered, rfl⟩⟩⟩

/-! ## Replacing a pair -/

variable {directory left : Directory}

/-- Only the files of pairs matter to the loader. -/
theorem readPair_congr {id : String}
    (same_cert : left.lookup (certPath config id) = directory.lookup (certPath config id))
    (same_key : left.lookup (keyPath config id) = directory.lookup (keyPath config id)) :
    readPair library config left (named config id) =
      readPair library config directory (named config id) := by
  simp only [readPair, named, readFile, same_cert, same_key]

theorem mem_congr {fileName : String} (same : left.lookup fileName = directory.lookup fileName) :
    fileName ∈ left ↔ fileName ∈ directory := by
  rw [← AList.lookup_isSome, ← AList.lookup_isSome, same]

theorem Loadable.congr (loadable : Loadable library config directory)
    (same_cert : ∀ id, left.lookup (certPath config id) = directory.lookup (certPath config id))
    (same_key : ∀ id, left.lookup (keyPath config id) = directory.lookup (keyPath config id)) :
    Loadable library config left := by
  have same_read (id : String) : readPair library config left (named config id) =
      readPair library config directory (named config id) :=
    readPair_congr (same_cert id) (same_key id)
  refine ⟨⟨?_, ?_, ?_⟩, ?_, ?_⟩
  · exact (mem_congr (same_cert "")).not.mpr loadable.paired.cert_named
  · exact (mem_congr (same_key "")).not.mpr loadable.paired.key_named
  · intro id
    rw [mem_congr (same_cert id), mem_congr (same_key id)]
    exact loadable.paired.partner id
  · intro id member
    rw [same_read]
    exact loadable.parsed id ((mem_congr (same_cert id)).mp member)
  · intro first second distinct one other first_read second_read
    rw [same_read] at first_read second_read
    exact loadable.unshared first second distinct one other first_read second_read

/-- No other pair of the directory has one of the names. -/
def Unclaimed (library : TlsLibrary Certificate PrivateKey CertifiedKey) (config : TlsConfig)
    (directory : Directory) (id : String) (metadata : CertificateMetadata) : Prop :=
  ∀ other, other ≠ id → ∀ read, readPair library config directory (named config other) = .ok read →
    metadata.dnsNames.Disjoint read.2.dnsNames

/-- A directory that loads goes on loading with a new pair exactly when nobody else has its
names. -/
theorem Loadable.replace_iff (loadable : Loadable library config directory) {id : String}
    (nonempty : id ≠ "") {certificateBytes keyBytes : Bytes}
    {read : CertifiedKey × CertificateMetadata}
    (parsed : parseCertificatePair library id certificateBytes keyBytes = .ok read)
    (own_cert : left.lookup (certPath config id) = some certificateBytes)
    (own_key : left.lookup (keyPath config id) = some keyBytes)
    (same_cert : ∀ other, other ≠ id →
      left.lookup (certPath config other) = directory.lookup (certPath config other))
    (same_key : ∀ other, other ≠ id →
      left.lookup (keyPath config other) = directory.lookup (keyPath config other)) :
    Loadable library config left ↔ Unclaimed library config directory id read.2 := by
  have own_read : readPair library config left (named config id) = .ok read :=
    readPair_named_eq_ok.mpr ⟨_, _, own_cert, own_key, parsed⟩
  have same_read {other : String} (distinct : other ≠ id) :
      readPair library config left (named config other) =
        readPair library config directory (named config other) :=
    readPair_congr (same_cert other distinct) (same_key other distinct)
  constructor
  · intro loads other distinct other_read other_parsed
    rw [← same_read distinct] at other_parsed
    exact loads.unshared id other (Ne.symm distinct) read other_read own_read other_parsed
  · intro unclaimed
    refine ⟨⟨?_, ?_, ?_⟩, ?_, ?_⟩
    · exact (mem_congr (same_cert "" nonempty.symm)).not.mpr loadable.paired.cert_named
    · exact (mem_congr (same_key "" nonempty.symm)).not.mpr loadable.paired.key_named
    · intro other
      by_cases same : other = id
      · subst same
        exact iff_of_true (Table.mem_iff_lookup.mpr ⟨_, own_cert⟩)
          (Table.mem_iff_lookup.mpr ⟨_, own_key⟩)
      · rw [mem_congr (same_cert other same), mem_congr (same_key other same)]
        exact loadable.paired.partner other
    · intro other member
      by_cases same : other = id
      · subst same
        exact ⟨read, own_read⟩
      · rw [same_read same]
        exact loadable.parsed other ((mem_congr (same_cert other same)).mp member)
    · intro first second distinct one other first_read second_read
      by_cases first_same : first = id
      · subst first_same
        cases own_read.symm.trans first_read
        rw [same_read (Ne.symm distinct)] at second_read
        exact unclaimed second (Ne.symm distinct) other second_read
      · rw [same_read first_same] at first_read
        by_cases second_same : second = id
        · subst second_same
          cases own_read.symm.trans second_read
          exact (unclaimed first distinct one first_read).symm
        · rw [same_read second_same] at second_read
          exact loadable.unshared first second distinct one other first_read second_read

/-! ## Known certificates -/

/-- A text in PEM armor. -/
def pemFile (label : String) (body : List String) : Bytes :=
  let lines := ["-----BEGIN " ++ label ++ "-----"] ++ body ++ ["-----END " ++ label ++ "-----"]
  (lines.flatMap fun line => line.toList ++ ['\n']).map fun character =>
    UInt8.ofNat character.toNat

section Known

variable {Known : Type} (known : List Known)

/-- The one among known certificates that a file belongs to. -/
def ofFile (file : Known → Bytes) (bytes : Bytes) : Option Known :=
  known.find? fun one => file one = bytes

/-- What the TLS libraries do with known certificates, each with a private key of its own. -/
def knownLibrary [DecidableEq Known] (chain privateKey : Known → Bytes)
    (dnsSans : Known → List String) : TlsLibrary Known Known Known where
  certs := fun bytes => some (ofFile known chain bytes).toList
  privateKey := fun bytes => some (ofFile known privateKey bytes)
  certifiedKey := fun chain privateKey => chain.head?.filter fun leaf => leaf = privateKey
  dnsSans := fun one => some (dnsSans one)

end Known

end EdgeGateway.Tls
