import EdgeGateway.Library.FileTable
import EdgeGateway.Library.Lines
import EdgeGateway.Library.Paths
import EdgeGateway.Library.Results
import EdgeGateway.Library.Utf8
import EdgeGateway.Security.Membership

/-!
# The networks of Cloudflare

The networks of a content delivery network are downloaded family by family, kept in a cache file
and published as one snapshot.  A refresh publishes only what it has written; one that fails leaves
the file and the snapshot as they were.
-/

namespace EdgeGateway.Security.Cloudflare

open FileTable IpAddress Results

/-- Largest accepted text. -/
def maxFileBytes : Nat := 256 * 1024

/-- Most entries of one text. -/
def maxEntries : Nat := 4096

/-- An error of the operating system that is passed on without a context of its own. -/
def systemError : String := "operating system error"

/-! ## Texts -/

/-- The family of an address. -/
def isIpv4 : IpAddr → Bool
  | .v4 _ => true
  | .v6 _ => false

/-- The address in front of the prefix. -/
def addressOf (value : List Char) : Except String IpAddr :=
  match Text.splitOnce '/' value with
  | none => .error "CIDR prefix required"
  | some (address, _) =>
      match IpAddress.parse (String.ofList address) with
      | none => .error "invalid IP address syntax"
      | some address => .ok address

/-- Check the values of one family, behind `count` of them. -/
def validateValues (ipv4 : Bool) (count : Nat) : List (List Char) → Except String Unit
  | [] => if count = 0 then .error "CF response is empty" else .ok ()
  | value :: rest => do
      let address ← addressOf value
      if isIpv4 address ≠ ipv4 then
        .error "CF response contains the wrong IP family"
      else
        let _ ← IpNetwork.parse (String.ofList value)
        if maxEntries < count + 1 then
          .error "CF response has too many entries"
        else
          validateValues ipv4 (count + 1) rest

/-- The values of a downloaded text. -/
def familyValues (source : List Char) : List (List Char) :=
  Text.records Text.trim source

/-- Check a downloaded text of one family. -/
def validateFamily (source : List Char) (ipv4 : Bool) : Except String Unit :=
  validateValues ipv4 0 (familyValues source)

/-- Read the values of a cache behind those seen, with the networks and families found so far. -/
def parseValues (seen : List (List Char)) (networks : List IpNetwork) (hasV4 hasV6 : Bool) :
    List (List Char) → Except String (List IpNetwork)
  | [] =>
      if !hasV4 || !hasV6 then .error "CF cache must contain both IP families" else .ok networks
  | value :: rest =>
      if value ∈ seen then
        .error "duplicate CIDR in CF cache"
      else do
        let address ← addressOf value
        let network ← IpNetwork.parse (String.ofList value)
        if maxEntries < (networks ++ [network]).length then
          .error "CF cache has too many entries"
        else
          parseValues (value :: seen) (networks ++ [network]) (hasV4 || isIpv4 address)
            (hasV6 || !isIpv4 address) rest

/-- The values of a cache; what follows the mark of a comment does not count. -/
def cacheValues (source : List Char) : List (List Char) :=
  Text.records (Text.uncomment '#') source

/-- Read the text of a cache. -/
def parseNetworks (source : List Char) : Except String (List IpNetwork) :=
  if maxFileBytes < (Utf8.encode source).length then .error "CF cache exceeds 256 KiB"
  else parseValues [] [] false false (cacheValues source)

/-! ## The cache file -/

/-- The files next to the cache file, by name. -/
abbrev Directory := Table (List Char) (List UInt8)

/-- Outcomes of reading the cache file. -/
structure ReadFaults where
  openFile : Bool := true
  read : Bool := true

/-- Read the cache file; one byte more than the limit is enough to see that it is too long. -/
def readCache (path : List Char) (files : Directory) (faults : ReadFaults) :
    Except String (List IpNetwork) :=
  match (Paths.fileName path).bind files.lookup with
  | none => .error systemError
  | some bytes =>
      if !faults.openFile then .error systemError
      else if !faults.read then .error systemError
      else
        match Utf8.decode (bytes.take (maxFileBytes + 1)) with
        | none => .error "stream did not contain valid UTF-8"
        | some source => parseNetworks source

/-- The outcome of every step of writing the cache file; `write` tells what a failed one left. -/
structure PersistFaults where
  createDirectory : Bool := true
  nonce : Option Nat := some 0
  create : Bool := true
  write : Option (List UInt8) := none
  flush : Bool := true
  sync : Bool := true
  rename : Bool := true
  remove : Bool := true

/-- The temporary file of a process at an instant. -/
def temporaryName (name : List Char) (processId nonce : Nat) : List Char :=
  '.' :: (name ++ '.' :: (Nat.toDigits 10 processId ++ '.' :: (Nat.toDigits 10 nonce ++
    ".tmp".toList)))

/-- Fill and sync the temporary file and put it in the place of the cache file. -/
def replaceCache (temporary name : List Char) (source : List UInt8) (faults : PersistFaults) :
    List (Operation (List Char) (List UInt8)) × Bool :=
  match faults.write with
  | some torn => ([.write temporary [], .write temporary torn], false)
  | none =>
      if faults.flush && faults.sync && faults.rename then
        ([.write temporary [], .write temporary source, .rename temporary name], true)
      else
        ([.write temporary [], .write temporary source], false)

/-- Write the cache file.  The temporary file must be new, and a failure removes it if it can. -/
def persistCache (path : List Char) (files : Directory) (processId : Nat) (source : List UInt8)
    (faults : PersistFaults) : Directory × Except String Unit :=
  if !faults.createDirectory then (files, .error systemError)
  else
    match Paths.fileName path with
    | none => (files, .error "CF cache requires a filename")
    | some name =>
        match faults.nonce with
        | none => (files, .error "second time provided was later than self")
        | some nonce =>
            let temporary := temporaryName name processId nonce
            if !faults.create || decide (temporary ∈ files) then (files, .error systemError)
            else
              let replaced := replaceCache temporary name source faults
              let written := perform files replaced.1
              if replaced.2 then (written, .ok ())
              else
                (if faults.remove then apply written (.remove temporary) else written,
                  .error "failed to atomically persist CF CIDR cache")

/-! ## Downloads -/

/-- One piece of a response. -/
inductive Frame
  | data (bytes : List UInt8)
  | trailers
  | failed (reason : String)

/-- How an exchange with the server ends; a failure may come at any point of it. -/
inductive Exchange
  | failed (reason : String)
  | answered (status : Nat) (frames : List Frame)

/-- Collect the pieces of a response. -/
def collect (data : List UInt8) : List Frame → Except String (List UInt8)
  | [] => .ok data
  | .data bytes :: rest =>
      if maxFileBytes < data.length + bytes.length then
        .error "CF CIDR response exceeds 256 KiB"
      else
        collect (data ++ bytes) rest
  | .trailers :: rest => collect data rest
  | .failed reason :: _ => .error reason

/-- The text of a response. -/
def Exchange.text : Exchange → Except String (List Char)
  | .failed reason => .error reason
  | .answered status frames =>
      if status ≠ 200 then
        .error ("CF CIDR download returned " ++ toString status ++ " (redirects are not followed)")
      else do
        let data ← collect [] frames
        match Utf8.decode data with
        | none => .error "invalid utf-8 sequence"
        | some source => .ok source

/-- Download the text of one family. -/
def download (exchange : Exchange) (ipv4 : Bool) : Except String (List Char) := do
  let source ← exchange.text
  validateFamily source ipv4
  .ok (Text.trim source)

/-! ## Refreshing -/

/-- The published snapshot and the files. -/
structure State where
  networks : List IpNetwork
  files : Directory

/-- Everything a refresh meets. -/
structure Refresh where
  v4 : Exchange
  v6 : Exchange
  faults : PersistFaults

/-- The first line of a written cache. -/
def cacheHeader : List Char :=
  "# Managed by edge-gateway; official Cloudflare v4/v6 HTTPS sources".toList

/-- The text of a cache with both families. -/
def cacheText (v4 v6 : List Char) : List Char :=
  cacheHeader ++ '\n' :: (v4 ++ '\n' :: (v6 ++ ['\n']))

/-- The text that a refresh writes, and its networks. -/
def Refresh.source (input : Refresh) : Except String (List Char × List IpNetwork) := do
  let v4 ← download input.v4 true
  let v6 ← download input.v6 false
  let networks ← parseNetworks (cacheText v4 v6)
  .ok (cacheText v4 v6, networks)

/-- Download both families, write the cache file and publish the networks. -/
def refresh (cacheFile : Option (List Char)) (processId : Nat) (state : State) (input : Refresh) :
    State × Except String Unit :=
  match cacheFile with
  | none => (state, .ok ())
  | some path =>
      match input.source with
      | .error reason => (state, .error reason)
      | .ok (source, networks) =>
          match persistCache path state.files processId (Utf8.encode source) input.faults with
          | (files, .error reason) => ({ state with files }, .error reason)
          | (files, .ok ()) => (⟨networks, files⟩, .ok ())

/-- Start with the networks of the cache file, or with those of a first refresh. -/
def load (cacheFile : Option (List Char)) (processId : Nat) (files : Directory)
    (faults : ReadFaults) (input : Refresh) : State × Except String Unit :=
  match cacheFile with
  | none => (⟨[], files⟩, .ok ())
  | some path =>
      match readCache path files faults with
      | .ok networks => (⟨networks, files⟩, .ok ())
      | .error _ =>
          match refresh cacheFile processId ⟨[], files⟩ input with
          | (state, .ok ()) => (state, .ok ())
          | (state, .error _) =>
              (state, .error "cannot establish initial Cloudflare CIDR snapshot")

/-- The states that a successful start and the refreshes after it reach. -/
inductive Reached (cacheFile : Option (List Char)) (processId : Nat) : State → Prop
  | load {files : Directory} {faults : ReadFaults} {input : Refresh} {state : State}
      (loaded : load cacheFile processId files faults input = (state, .ok ())) :
      Reached cacheFile processId state
  | refresh {state : State} (reached : Reached cacheFile processId state) (input : Refresh) :
      Reached cacheFile processId (refresh cacheFile processId state input).1

/-! ## Accepted values -/

/-- The network of a value. -/
def networkAt (value : List Char) : Except String IpNetwork :=
  IpNetwork.parse (String.ofList value)

/-- No network is written with the mark of a comment. -/
theorem plain_of_networkAt {value : List Char} {network : IpNetwork}
    (accepted : networkAt value = .ok network) : '#' ∉ value := by
  obtain ⟨address, length, front, back, split, parsed, read⟩ := denotes_of_parse accepted
  rw [String.toList_ofList, Text.splitOnce_eq_some] at split
  obtain ⟨_, rfl⟩ := split
  intro marked
  rcases List.mem_append.mp marked with first | behind
  · rw [← @String.toList_ofList front] at first
    exact absurd (written_of_parse parsed first) (by decide)
  · rcases List.mem_cons.mp behind with slash | last
    · cases slash
    · exact absurd (Text.digit_of_parseUnsigned read last) (by decide)

/-- The network is of the IPv4 family. -/
def isIpv4Network : IpNetwork → Bool
  | .v4 .. => true
  | .v6 .. => false

/-- A network is of the family of its address. -/
theorem isIpv4Network_of_addressOf {value : List Char} {address : IpAddr} {network : IpNetwork}
    (found : addressOf value = .ok address) (accepted : networkAt value = .ok network) :
    isIpv4Network network = isIpv4 address := by
  obtain ⟨other, length, denotes⟩ := denotes_of_parse accepted
  have same : other = address := by
    obtain ⟨front, back, split, parsed, _⟩ := denotes
    rw [String.toList_ofList] at split
    simp only [addressOf, split, parsed] at found
    exact Except.ok.inj found
  subst same
  have built := (parse_of_denotes denotes).symm.trans accepted
  cases other with
  | v4 bits =>
      simp only [networkOf] at built
      split_ifs at built
      cases built
      rfl
  | v6 bits =>
      simp only [networkOf] at built
      split_ifs at built
      cases built
      rfl

/-- All values of an accepted text are networks. -/
theorem networks_of_validateValues {ipv4 : Bool} {count : Nat} {values : List (List Char)}
    (accepted : validateValues ipv4 count values = .ok ()) :
    ∀ value ∈ values, ∃ network, networkAt value = .ok network := by
  induction values generalizing count with
  | nil => exact fun _ member => nomatch member
  | cons value rest induction =>
      rw [validateValues] at accepted
      obtain ⟨address, _, accepted⟩ := bind_eq_ok.mp accepted
      split at accepted
      · cases accepted
      · obtain ⟨network, parsed, accepted⟩ := bind_eq_ok.mp accepted
        split_ifs at accepted with many
        rw [List.forall_mem_cons]
        exact ⟨⟨network, parsed⟩, induction accepted⟩

/-- A flag that is raised by the next value or behind it tells of the values from there on. -/
theorem found_cons {before own wanted : Bool} {network : IpNetwork} {added : List IpNetwork}
    (family : own = true → isIpv4Network network = wanted)
    (found : (before || own) = true ∨ ∃ other ∈ added, isIpv4Network other = wanted) :
    before = true ∨ ∃ other ∈ network :: added, isIpv4Network other = wanted := by
  rcases found with flagged | ⟨other, member, later⟩
  · rcases Bool.or_eq_true_iff.mp flagged with earlier | raised
    · exact .inl earlier
    · exact .inr ⟨network, List.mem_cons_self, family raised⟩
  · exact .inr ⟨other, List.mem_cons_of_mem _ member, later⟩

/-- What is read from a cache is the networks of its values, in their order, and both families are
among them or were before. -/
theorem parseValues_eq_ok {seen values : List (List Char)} {networks result : List IpNetwork}
    {hasV4 hasV6 : Bool}
    (accepted : parseValues seen networks hasV4 hasV6 values = .ok result) :
    ∃ added, result = networks ++ added ∧ values.mapM networkAt = .ok added ∧
      (hasV4 = true ∨ ∃ network ∈ added, isIpv4Network network = true) ∧
      (hasV6 = true ∨ ∃ network ∈ added, isIpv4Network network = false) := by
  induction values generalizing seen networks hasV4 hasV6 with
  | nil =>
      rw [parseValues] at accepted
      split_ifs at accepted with missing
      cases accepted
      simp only [Bool.or_eq_true, Bool.not_eq_true', not_or, Bool.not_eq_false] at missing
      exact ⟨[], (List.append_nil _).symm, rfl, .inl missing.1, .inl missing.2⟩
  | cons value rest induction =>
      rw [parseValues] at accepted
      split_ifs at accepted with repeated
      obtain ⟨address, found, accepted⟩ := bind_eq_ok.mp accepted
      obtain ⟨network, parsed, accepted⟩ := bind_eq_ok.mp accepted
      split_ifs at accepted with many
      have family := isIpv4Network_of_addressOf found parsed
      obtain ⟨added, rfl, mapped, v4, v6⟩ := induction accepted
      refine ⟨network :: added, List.append_assoc _ _ _, ?_, found_cons family.trans v4,
        found_cons (fun raised => family.trans (Bool.not_eq_true' _ ▸ raised)) v6⟩
      have own : networkAt value = .ok network := parsed
      rw [List.mapM_cons, own, mapped]
      rfl

/-- The networks of a snapshot are those of its text, and both families are among them. -/
structure Parsed (source : List Char) (networks : List IpNetwork) : Prop where
  parsed : parseNetworks source = .ok networks
  small : (Utf8.encode source).length ≤ maxFileBytes
  mapped : (cacheValues source).mapM networkAt = .ok networks
  hasV4 : ∃ network ∈ networks, isIpv4Network network = true
  hasV6 : ∃ network ∈ networks, isIpv4Network network = false

theorem parsed_of_parseNetworks {source : List Char} {networks : List IpNetwork}
    (accepted : parseNetworks source = .ok networks) : Parsed source networks := by
  have parsed := accepted
  rw [parseNetworks] at accepted
  split_ifs at accepted with large
  obtain ⟨added, same, mapped, v4, v6⟩ := parseValues_eq_ok accepted
  rw [List.nil_append] at same
  subst same
  exact ⟨parsed, Nat.le_of_not_lt large, mapped, v4.resolve_left Bool.false_ne_true,
    v6.resolve_left Bool.false_ne_true⟩

theorem cacheValues_append (front back : List Char) :
    cacheValues (front ++ '\n' :: back) = cacheValues front ++ cacheValues back :=
  Text.records_append (Text.cleans_uncomment (by decide)) front back

/-- The values of a cache with both families are those of the two texts, one after the other. -/
theorem cacheValues_cacheText {v4 v6 : List Char} (v4_valid : validateFamily v4 true = .ok ())
    (v6_valid : validateFamily v6 false = .ok ()) :
    cacheValues (cacheText (Text.trim v4) (Text.trim v6)) = familyValues v4 ++ familyValues v6 := by
  have family (text : List Char) (ipv4 : Bool) (valid : validateFamily text ipv4 = .ok ()) :
      cacheValues (Text.trim text) = familyValues text := by
    have trimmed : Text.records Text.trim (Text.trim text) = familyValues text :=
      Text.records_trim text
    rw [cacheValues, Text.records_uncomment (by decide) (by decide), trimmed]
    rw [trimmed]
    intro value member
    obtain ⟨network, accepted⟩ := networks_of_validateValues valid value member
    exact plain_of_networkAt accepted
  have header : cacheValues cacheHeader = [] := by decide
  have nothing : cacheValues [] = [] := by decide
  rw [cacheText, cacheValues_append, cacheValues_append, cacheValues_append, header, nothing,
    family v4 true v4_valid, family v6 false v6_valid, List.nil_append, List.append_nil]

/-! ## The cache file -/

/-- The cache file holds the text of the networks. -/
def Holds (name : List Char) (files : Directory) (networks : List IpNetwork) : Prop :=
  ∃ source, files.lookup name = some (Utf8.encode source) ∧ Parsed source networks

section Files

variable {path name : List Char} {files : Directory} {networks : List IpNetwork}

/-- A text is read back from its bytes. -/
theorem readCache_of_holds (named : Paths.fileName path = some name)
    (holds : Holds name files networks) : readCache path files {} = .ok networks := by
  obtain ⟨source, found, parsed⟩ := holds
  have short : (Utf8.encode source).length ≤ maxFileBytes + 1 := by
    have small := parsed.small
    omega
  have whole := List.take_of_length_le short
  have decoded : Utf8.decode (Utf8.encode source) = some source := Utf8.decode_eq_some.mpr rfl
  simp only [readCache, named, Option.bind_some, found, whole, decoded, Bool.not_true,
    Bool.false_eq_true, if_false]
  exact parsed.parsed

/-- What is read is the whole file, for a longer one is rejected. -/
theorem holds_of_readCache {faults : ReadFaults}
    (read : readCache path files faults = .ok networks) :
    ∃ name, Paths.fileName path = some name ∧ Holds name files networks := by
  unfold readCache at read
  cases named : Paths.fileName path with
  | none => simp [named] at read
  | some name =>
      refine ⟨name, rfl, ?_⟩
      rw [named, Option.bind_some] at read
      split at read
      · cases read
      · rename_i bytes found
        split_ifs at read
        split at read
        · cases read
        · rename_i source decoded
          have parsed := parsed_of_parseNetworks read
          have front := Utf8.decode_eq_some.mp decoded
          have short := parsed.small
          rw [← front, List.length_take] at short
          have whole : bytes.take (maxFileBytes + 1) = bytes :=
            List.take_of_length_le (by omega)
          exact ⟨source, found.trans (congrArg some (whole.symm.trans front)), parsed⟩

/-- A temporary file is not the cache file. -/
theorem temporaryName_ne (name : List Char) (processId nonce : Nat) :
    name ≠ temporaryName name processId nonce := by
  intro same
  have lengths := congrArg List.length same
  simp only [temporaryName, List.length_cons, List.length_append] at lengths
  omega

variable {processId : Nat} {source : List UInt8} {faults : PersistFaults}

/-- A replacement that fails has changed the temporary file only. -/
theorem replaceCache_names {temporary : List Char} (distinct : name ≠ temporary)
    (failed : (replaceCache temporary name source faults).2 = false) :
    ∀ operation ∈ (replaceCache temporary name source faults).1, name ∉ operation.names := by
  unfold replaceCache at failed ⊢
  split at failed
  · simp [Operation.names, distinct]
  · split_ifs at failed ⊢
    simp [Operation.names, distinct]

/-- A replacement that succeeds has written the whole text before it renames. -/
theorem replaceCache_succeeded {temporary : List Char}
    (succeeded : (replaceCache temporary name source faults).2 = true) :
    (replaceCache temporary name source faults).1 =
      [.write temporary [], .write temporary source, .rename temporary name] := by
  unfold replaceCache at succeeded ⊢
  split at succeeded
  · cases succeeded
  · split_ifs at succeeded ⊢
    rfl

/-- The ways in which writing the cache file ends. -/
theorem persistCache_cases (named : Paths.fileName path = some name) :
    (∃ reason, persistCache path files processId source faults = (files, .error reason)) ∨
      ∃ temporary, name ≠ temporary ∧
        persistCache path files processId source faults =
          let replaced := replaceCache temporary name source faults
          let written := perform files replaced.1
          if replaced.2 then (written, .ok ())
          else
            (if faults.remove then apply written (.remove temporary) else written,
              .error "failed to atomically persist CF CIDR cache") := by
  rw [persistCache, named]
  by_cases directory : (!faults.createDirectory) = true
  · exact .inl ⟨_, if_pos directory⟩
  · rw [if_neg directory]
    cases faults.nonce with
    | none => exact .inl ⟨_, rfl⟩
    | some nonce =>
        by_cases taken :
            (!faults.create || decide (temporaryName name processId nonce ∈ files)) = true
        · exact .inl ⟨_, if_pos taken⟩
        · exact .inr ⟨_, temporaryName_ne name processId nonce, if_neg taken⟩

/-- Writing the cache file puts the whole text there or leaves the file as it was. -/
theorem persistCache_spec (named : Paths.fileName path = some name) :
    ((persistCache path files processId source faults).2 = .ok () ∧
        (persistCache path files processId source faults).1.lookup name = some source) ∨
      ((∃ reason, (persistCache path files processId source faults).2 = .error reason) ∧
        (persistCache path files processId source faults).1.lookup name = files.lookup name) := by
  rcases persistCache_cases named with ⟨reason, early⟩ | ⟨temporary, distinct, late⟩
  · rw [early]
    exact .inr ⟨⟨reason, rfl⟩, rfl⟩
  · rw [late]
    dsimp only
    cases replaced : (replaceCache temporary name source faults).2 with
    | true =>
        left
        rw [if_pos rfl, replaceCache_succeeded replaced]
        exact ⟨rfl, lookup_rename (lookup_write _ _)⟩
    | false =>
        right
        rw [if_neg Bool.false_ne_true]
        refine ⟨⟨_, rfl⟩, ?_⟩
        have unchanged : (perform files (replaceCache temporary name source faults).1).lookup name =
            files.lookup name :=
          lookup_perform_other (replaceCache_names distinct replaced)
        dsimp only
        split
        · rw [lookup_apply_other (fun mentioned => distinct (List.mem_singleton.mp mentioned)),
            unchanged]
        · exact unchanged

/-- A name is needed to write the cache file. -/
theorem exists_fileName_of_persistCache
    (succeeded : (persistCache path files processId source faults).2 = .ok ()) :
    ∃ name, Paths.fileName path = some name := by
  cases named : Paths.fileName path with
  | none =>
      rw [persistCache, named] at succeeded
      split_ifs at succeeded
  | some name => exact ⟨name, rfl⟩

end Files

/-! ## Refreshes -/

section Refreshes

variable {path name : List Char} {processId : Nat} {state : State} {input : Refresh}

/-- The texts of a refresh, and what it writes and publishes. -/
theorem Refresh.source_eq_ok {source : List Char} {networks : List IpNetwork}
    (accepted : input.source = .ok (source, networks)) :
    ∃ v4 v6, input.v4.text = .ok v4 ∧ input.v6.text = .ok v6 ∧
      validateFamily v4 true = .ok () ∧ validateFamily v6 false = .ok () ∧
      Parsed source networks ∧
      (familyValues v4 ++ familyValues v6).mapM networkAt = .ok networks := by
  obtain ⟨first, v4_downloaded, accepted⟩ := bind_eq_ok.mp accepted
  obtain ⟨second, v6_downloaded, accepted⟩ := bind_eq_ok.mp accepted
  obtain ⟨found, parsed, accepted⟩ := bind_eq_ok.mp accepted
  cases accepted
  obtain ⟨v4, v4_text, v4_checked⟩ := bind_eq_ok.mp v4_downloaded
  obtain ⟨_, v4_valid, v4_checked⟩ := bind_eq_ok.mp v4_checked
  cases v4_checked
  obtain ⟨v6, v6_text, v6_checked⟩ := bind_eq_ok.mp v6_downloaded
  obtain ⟨_, v6_valid, v6_checked⟩ := bind_eq_ok.mp v6_checked
  cases v6_checked
  have both := parsed_of_parseNetworks parsed
  have mapped := both.mapped
  rw [cacheValues_cacheText v4_valid v6_valid] at mapped
  exact ⟨v4, v6, v4_text, v6_text, v4_valid, v6_valid, both, mapped⟩

/-- A refresh that fails leaves the snapshot and the cache file as they were; one that succeeds
publishes the networks of the text that it has written. -/
theorem refresh_cases (path : List Char) (processId : Nat) (state : State) (input : Refresh) :
    (∃ files reason,
        refresh (some path) processId state input = (⟨state.networks, files⟩, .error reason) ∧
          ∀ name, Paths.fileName path = some name →
            files.lookup name = state.files.lookup name) ∨
      ∃ files source networks name,
        refresh (some path) processId state input = (⟨networks, files⟩, .ok ()) ∧
          input.source = .ok (source, networks) ∧ Paths.fileName path = some name ∧
          files.lookup name = some (Utf8.encode source) := by
  unfold refresh
  dsimp only
  cases accepted : input.source with
  | error reason => exact .inl ⟨state.files, reason, rfl, fun _ _ => rfl⟩
  | ok written =>
      obtain ⟨source, networks⟩ := written
      dsimp only
      cases persisted :
          persistCache path state.files processId (Utf8.encode source) input.faults with
      | mk files outcome =>
          cases outcome with
          | error reason =>
              refine .inl ⟨files, reason, rfl, fun name named => ?_⟩
              have spec := @persistCache_spec _ _ state.files processId (Utf8.encode source)
                input.faults named
              rw [persisted] at spec
              exact (spec.resolve_left fun written => nomatch written.1).2
          | ok _ =>
              obtain ⟨name, named⟩ :=
                exists_fileName_of_persistCache (congrArg Prod.snd persisted)
              have spec := @persistCache_spec _ _ state.files processId (Utf8.encode source)
                input.faults named
              rw [persisted] at spec
              exact .inr ⟨files, source, networks, name, rfl, rfl, named,
                (spec.resolve_right fun failed => nomatch failed.1).2⟩

/-- A refresh that fails leaves the snapshot and the cache file as they were. -/
theorem refresh_error {reason : String} (named : Paths.fileName path = some name)
    (failed : (refresh (some path) processId state input).2 = .error reason) :
    (refresh (some path) processId state input).1.networks = state.networks ∧
      (refresh (some path) processId state input).1.files.lookup name =
        state.files.lookup name := by
  rcases refresh_cases path processId state input with
    ⟨files, _, refreshed, unchanged⟩ | ⟨_, _, _, _, refreshed, _⟩
  · rw [refreshed]
    exact ⟨rfl, unchanged name named⟩
  · rw [refreshed] at failed
    cases failed

/-- A refresh that succeeds publishes the networks of both texts and has written them. -/
theorem refresh_ok (succeeded : (refresh (some path) processId state input).2 = .ok ()) :
    ∃ name v4 v6, Paths.fileName path = some name ∧
      input.v4.text = .ok v4 ∧ input.v6.text = .ok v6 ∧
      validateFamily v4 true = .ok () ∧ validateFamily v6 false = .ok () ∧
      (familyValues v4 ++ familyValues v6).mapM networkAt =
        .ok (refresh (some path) processId state input).1.networks ∧
      Holds name (refresh (some path) processId state input).1.files
        (refresh (some path) processId state input).1.networks := by
  rcases refresh_cases path processId state input with
    ⟨_, _, refreshed, _⟩ | ⟨files, source, networks, name, refreshed, accepted, named, written⟩
  · rw [refreshed] at succeeded
    cases succeeded
  · obtain ⟨v4, v6, v4_text, v6_text, v4_valid, v6_valid, parsed, mapped⟩ :=
      Refresh.source_eq_ok accepted
    rw [refreshed]
    exact ⟨name, v4, v6, named, v4_text, v6_text, v4_valid, v6_valid, mapped, source, written,
      parsed⟩

/-- In every state that is reached, the cache file holds the published networks. -/
theorem holds_of_reached (reached : Reached (some path) processId state) :
    ∃ name, Paths.fileName path = some name ∧ Holds name state.files state.networks := by
  induction reached with
  | @load files faults input state loaded =>
      unfold load at loaded
      dsimp only at loaded
      cases read : readCache path files faults with
      | ok networks =>
          rw [read] at loaded
          cases loaded
          exact holds_of_readCache read
      | error reason =>
          rw [read] at loaded
          dsimp only at loaded
          cases refreshed : refresh (some path) processId ⟨[], files⟩ input with
          | mk next outcome =>
              rw [refreshed] at loaded
              cases outcome with
              | error _ => cases loaded
              | ok _ =>
                  cases loaded
                  obtain ⟨name, _, _, named, _, _, _, _, _, holds⟩ :=
                    refresh_ok (congrArg Prod.snd refreshed)
                  rw [refreshed] at holds
                  exact ⟨name, named, holds⟩
  | @refresh state reached input induction =>
      cases refreshed : (refresh (some path) processId state input).2 with
      | ok _ =>
          obtain ⟨name, _, _, named, _, _, _, _, _, holds⟩ := refresh_ok refreshed
          exact ⟨name, named, holds⟩
      | error reason =>
          obtain ⟨name, named, source, found, parsed⟩ := induction
          obtain ⟨networks, lookup⟩ := refresh_error named refreshed
          exact ⟨name, named, source, lookup.trans found, networks ▸ parsed⟩

/-- The published networks are never partial, empty or ahead of the cache file: they are those of
its text and contain both families, a refresh that fails leaves them and the file as they were, and
one that succeeds publishes and writes the networks of both texts. -/
theorem trust_set_current (reached : Reached (some path) processId state) :
    ∃ name source, Paths.fileName path = some name ∧
      state.files.lookup name = some (Utf8.encode source) ∧
      parseNetworks source = .ok state.networks ∧
      readCache path state.files {} = .ok state.networks ∧
      (∃ network ∈ state.networks, isIpv4Network network = true) ∧
      (∃ network ∈ state.networks, isIpv4Network network = false) ∧
      ∀ input next outcome, refresh (some path) processId state input = (next, outcome) →
        (∀ reason, outcome = .error reason →
          next.networks = state.networks ∧ next.files.lookup name = state.files.lookup name) ∧
        (outcome = .ok () → ∃ v4 v6 v4_networks v6_networks,
          input.v4.text = .ok v4 ∧ input.v6.text = .ok v6 ∧
          validateFamily v4 true = .ok () ∧ validateFamily v6 false = .ok () ∧
          (familyValues v4).mapM networkAt = .ok v4_networks ∧
          (familyValues v6).mapM networkAt = .ok v6_networks ∧
          next.networks = v4_networks ++ v6_networks ∧
          readCache path next.files {} = .ok next.networks) := by
  obtain ⟨name, named, holds⟩ := holds_of_reached reached
  have read := readCache_of_holds named holds
  obtain ⟨source, found, parsed⟩ := holds
  refine ⟨name, source, named, found, parsed.parsed, read, parsed.hasV4, parsed.hasV6, ?_⟩
  intro input next outcome refreshed
  constructor
  · rintro reason rfl
    have unchanged := refresh_error named (congrArg Prod.snd refreshed)
    rwa [refreshed] at unchanged
  · rintro rfl
    obtain ⟨_, v4, v6, renamed, v4_text, v6_text, v4_valid, v6_valid, mapped, written⟩ :=
      refresh_ok (congrArg Prod.snd refreshed)
    rw [refreshed] at mapped written
    rw [List.mapM_append] at mapped
    obtain ⟨v4_networks, v4_mapped, mapped⟩ := bind_eq_ok.mp mapped
    obtain ⟨v6_networks, v6_mapped, mapped⟩ := bind_eq_ok.mp mapped
    exact ⟨v4, v6, v4_networks, v6_networks, v4_text, v6_text, v4_valid, v6_valid, v4_mapped,
      v6_mapped, (Except.ok.inj mapped).symm, readCache_of_holds renamed written⟩

/-- Two short downloads, into a directory without a cache file. -/
def firstRefresh : Refresh where
  v4 := .answered 200 [.data (Utf8.encode "1.0.0.0/24\r\n".toList), .trailers]
  v6 := .answered 200 [.data (Utf8.encode "2400::/32".toList)]
  faults := {}

/-- The state after the two downloads. -/
def firstState : State :=
  (load (some "etc/cf".toList) 7 ∅ {} firstRefresh).1

/-- A start without a cache file leaves one that is read back. -/
theorem trust_set_current_first :
    readCache "etc/cf".toList firstState.files {} = .ok firstState.networks := by
  have succeeded : (load (some "etc/cf".toList) 7 ∅ {} firstRefresh).2 = .ok () := by
    decide +kernel
  have reached : Reached (some "etc/cf".toList) 7 firstState :=
    .load (Prod.ext rfl succeeded)
  obtain ⟨_, _, _, _, _, read, _⟩ := trust_set_current reached
  exact read

end Refreshes

end EdgeGateway.Security.Cloudflare
