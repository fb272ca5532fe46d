import EdgeGateway.Library.FileTable
import EdgeGateway.Library.Splitting
import EdgeGateway.Tls.Store

/-!
# Saving a certificate

A new certificate and its private key are written to temporary files, which then replace the files
of the pair one after the other, the private key first.  Any step may fail, a write even without
being reported, and the process may end between any two of them.
-/

namespace EdgeGateway.Acme

open EdgeGateway.Configuration FileTable Results Tls

/-- A change of the certificate directory. -/
abbrev DirectoryOperation := Operation String Bytes

/-- How writing a file ends.  The bytes are written behind a buffer, and a write that fails there is
reported by the next one or by a flush; nothing of the kind follows the last write of a file, so
that it can lose bytes at the end without anybody being told. -/
inductive WriteOutcome
  | createFailed
  | writeFailed (torn : Bytes)
  | syncFailed (lost : Nat)
  | permissionsFailed (lost : Nat)
  | written (lost : Nat)
deriving DecidableEq

namespace WriteOutcome

/-- What has become of the bytes in the file. -/
def stored (bytes : Bytes) : WriteOutcome → Bytes
  | createFailed => []
  | writeFailed torn => torn
  | syncFailed lost | permissionsFailed lost | written lost => bytes.take (bytes.length - lost)

/-- No failure has been reported. -/
def isWritten : WriteOutcome → Bool
  | written _ => true
  | createFailed | writeFailed _ | syncFailed _ | permissionsFailed _ => false

@[simp] theorem stored_written (bytes : Bytes) : (written 0).stored bytes = bytes :=
  List.take_length

end WriteOutcome

/-- The outcome of every step of saving a pair. -/
structure SaveFaults where
  createDirectory : Bool := true
  writeCertificate : WriteOutcome := .written 0
  writeKey : WriteOutcome := .written 0
  renameKey : Bool := true
  renameCertificate : Bool := true
  removeCertificate : Bool := true
  removeKey : Bool := true

/-- What saving a pair did to the directory, and what it reports. -/
structure Saved where
  operations : List DirectoryOperation
  result : Except String Unit

/-- The temporary file next to a file, for a process at an instant. -/
def temporaryPath (path : String) (processId nonce : Nat) : String :=
  let name := (Paths.fileName path.toList).getD "acme-state".toList
  String.ofList ('.' :: (name ++ ".tmp-".toList ++ Nat.toDigits 10 processId ++
    '-' :: Nat.toDigits 10 nonce))

/-- Create a file, fill and sync it, and set its permissions. -/
def writeFile (config : TlsConfig) (fileName : String) (bytes : Bytes) (outcome : WriteOutcome) :
    Saved :=
  let filled := [.write fileName [], .write fileName (outcome.stored bytes)]
  match outcome with
  | .createFailed => ⟨[], .error ("failed to create " ++ displayPath config fileName)⟩
  | .writeFailed _ => ⟨filled, .error ("failed to write " ++ displayPath config fileName)⟩
  | .syncFailed _ => ⟨filled, .error ("failed to sync " ++ displayPath config fileName)⟩
  | .permissionsFailed _ =>
      ⟨filled, .error ("failed to set permissions on " ++ displayPath config fileName)⟩
  | .written _ => ⟨filled, .ok ()⟩

/-- What a failed rename reports. -/
def replaceError (config : TlsConfig) (source destination : String) : String :=
  "failed to replace " ++ displayPath config destination ++ " with " ++ displayPath config source

/-- Remove a temporary file, if that is possible. -/
def removeFile (path : String) (possible : Bool) : List DirectoryOperation :=
  if possible then [.remove path] else []

/-- Save a pair; its temporary files are named after the process and the instants. -/
def saveCertificatePair (config : TlsConfig) (id : String) (certificatePem privateKeyPem : Bytes)
    (processId certNonce keyNonce : Nat) (faults : SaveFaults) : Saved :=
  let certTemp := temporaryPath (certPath config id) processId certNonce
  let keyTemp := temporaryPath (keyPath config id) processId keyNonce
  if !faults.createDirectory then
    ⟨[], .error ("failed to create TLS certificate directory " ++ config.certDir)⟩
  else
    let certificate := writeFile config certTemp certificatePem faults.writeCertificate
    match certificate.result with
    | .error reason => ⟨certificate.operations, .error reason⟩
    | .ok () =>
        let key := writeFile config keyTemp privateKeyPem faults.writeKey
        let written := certificate.operations ++ key.operations
        match key.result with
        | .error reason =>
            ⟨written ++ removeFile certTemp faults.removeCertificate, .error reason⟩
        | .ok () =>
            if !faults.renameKey then
              ⟨written ++ (removeFile certTemp faults.removeCertificate ++
                  removeFile keyTemp faults.removeKey),
                .error (replaceError config keyTemp (keyPath config id))⟩
            else if !faults.renameCertificate then
              ⟨written ++ .rename keyTemp (keyPath config id) ::
                  removeFile certTemp faults.removeCertificate,
                .error (replaceError config certTemp (certPath config id))⟩
            else
              ⟨written ++ [.rename keyTemp (keyPath config id),
                .rename certTemp (certPath config id)], .ok ()⟩

/-! ## Names of temporary files -/

/-- The name that a temporary file is made of. -/
def baseName (path : String) : List Char :=
  (Paths.fileName path.toList).getD "acme-state".toList

theorem temporaryPath_toList (path : String) (processId nonce : Nat) :
    (temporaryPath path processId nonce).toList = '.' :: (baseName path ++
      '.' :: ("tmp-".toList ++ Nat.toDigits 10 processId ++ '-' :: Nat.toDigits 10 nonce)) := by
  rw [temporaryPath, String.toList_ofList]
  simp [baseName]

/-- What follows the last dot of a temporary name leads back to its base. -/
theorem baseName_eq_of_temporaryPath {first second : String} {processId one other : Nat}
    (same : temporaryPath first processId one = temporaryPath second processId other) :
    baseName first = baseName second := by
  have no_dot (nonce : Nat) : '.' ∉ "tmp-".toList ++ Nat.toDigits 10 processId ++
      '-' :: Nat.toDigits 10 nonce := by
    have digit (number : Nat) : '.' ∉ Nat.toDigits 10 number := fun member =>
      absurd (Nat.isDigit_of_mem_toDigits (by decide) (by decide) member) (by decide)
    simp [digit]
  have lists := congrArg String.toList same
  rw [temporaryPath_toList, temporaryPath_toList, List.cons_inj_right] at lists
  exact Splitting.front_eq_of_last (no_dot one) (no_dot other) lists

variable {config : TlsConfig} {id : String}

/-- The base of a temporary file of a pair is the name of the file, unless that name leads up. -/
theorem baseName_append {suffix : String} (id_nonempty : id ≠ "") (id_plain : '/' ∉ id.toList)
    (nonempty : suffix ≠ "") (plain : '/' ∉ suffix.toList) :
    ((id ++ suffix).toList ≠ ['.', '.'] → baseName (id ++ suffix) = (id ++ suffix).toList) ∧
      ((id ++ suffix).toList = ['.', '.'] →
        baseName (id ++ suffix) = "acme-state".toList ∧ id.toList = ['.']) := by
  have name_plain : '/' ∉ (id ++ suffix).toList := by
    rw [String.toList_append, List.mem_append, not_or]
    exact ⟨id_plain, plain⟩
  obtain ⟨first, before, id_text⟩ : ∃ first before, id.toList = first :: before :=
    List.exists_cons_of_ne_nil (String.toList_eq_nil_iff.not.mpr id_nonempty)
  obtain ⟨next, behind, suffix_text⟩ : ∃ next behind, suffix.toList = next :: behind :=
    List.exists_cons_of_ne_nil (String.toList_eq_nil_iff.not.mpr nonempty)
  constructor
  · intro below
    rw [baseName, Paths.fileName_of_plain name_plain ?_ ?_ below, Option.getD_some]
    · simp [id_text]
    · simp [id_text, suffix_text]
  · intro above
    constructor
    · rw [baseName, above]
      rfl
    · rw [String.toList_append, id_text, suffix_text] at above
      rw [id_text]
      cases before with
      | nil => simp_all
      | cons character rest => simp at above

/-- The temporary files of a pair are two files. -/
theorem temporaries_distinct (naming : Naming config) (id_nonempty : id ≠ "")
    (id_plain : '/' ∉ id.toList) (processId certNonce keyNonce : Nat) :
    temporaryPath (certPath config id) processId certNonce ≠
      temporaryPath (keyPath config id) processId keyNonce := by
  intro same
  have bases := baseName_eq_of_temporaryPath same
  obtain ⟨cert_below, cert_above⟩ :=
    baseName_append id_nonempty id_plain naming.cert_nonempty naming.cert_plain
  obtain ⟨key_below, key_above⟩ :=
    baseName_append id_nonempty id_plain naming.key_nonempty naming.key_plain
  have distinct := certPath_ne_keyPath naming.separate id id
  rw [certPath, keyPath] at bases distinct
  by_cases cert_up : (id ++ config.certSuffix).toList = ['.', '.']
  · by_cases key_up : (id ++ config.keySuffix).toList = ['.', '.']
    · exact distinct (String.toList_inj.mp (cert_up.trans key_up.symm))
    · obtain ⟨base, dot⟩ := cert_above cert_up
      rw [base, key_below key_up, String.toList_append, dot] at bases
      cases bases
  · by_cases key_up : (id ++ config.keySuffix).toList = ['.', '.']
    · obtain ⟨base, dot⟩ := key_above key_up
      rw [base, cert_below cert_up, String.toList_append, dot] at bases
      cases bases
    · rw [cert_below cert_up, key_below key_up, String.toList_inj] at bases
      exact distinct bases

/-- The loader takes the file neither for a certificate nor for a private key. -/
def Unread (config : TlsConfig) (fileName : String) : Prop :=
  ¬ config.certSuffix.toList <:+ fileName.toList ∧ ¬ config.keySuffix.toList <:+ fileName.toList

theorem Unread.ne {fileName : String} (unread : Unread config fileName) (other : String) :
    certPath config other ≠ fileName ∧ keyPath config other ≠ fileName := by
  constructor
  · rintro rfl
    exact unread.1 ⟨other.toList, by rw [certPath, String.toList_append]⟩
  · rintro rfl
    exact unread.2 ⟨other.toList, by rw [keyPath, String.toList_append]⟩

/-- Temporary files end in a digit, so suffixes that do not leave them alone. -/
theorem unread_temporaryPath (naming : Naming config)
    (cert_plain : ∀ last ∈ config.certSuffix.toList.getLast?, last.isDigit = false)
    (key_plain : ∀ last ∈ config.keySuffix.toList.getLast?, last.isDigit = false)
    (path : String) (processId nonce : Nat) :
    Unread config (temporaryPath path processId nonce) := by
  have ends {suffix : List Char} (nonempty : suffix ≠ [])
      (ending : suffix <:+ (temporaryPath path processId nonce).toList) :
      ∃ last ∈ suffix.getLast?, last.isDigit = true := by
    obtain ⟨front, same⟩ := ending
    have digits : Nat.toDigits 10 nonce ≠ [] := Nat.toDigits_ne_nil
    refine ⟨(Nat.toDigits 10 nonce).getLast digits, ?_,
      Nat.isDigit_of_mem_toDigits (by decide) (by decide) (List.getLast_mem digits)⟩
    have text : (temporaryPath path processId nonce).toList =
        '.' :: (baseName path ++ '.' :: ("tmp-".toList ++ Nat.toDigits 10 processId ++ ['-'])) ++
          Nat.toDigits 10 nonce := by
      rw [temporaryPath_toList]
      simp
    have lasts := congrArg List.getLast? same
    rw [text, List.getLast?_append_of_ne_nil _ nonempty, List.getLast?_append_of_ne_nil _ digits]
      at lasts
    rw [lasts, Option.mem_def, List.getLast?_eq_some_getLast digits]
  constructor
  · intro ending
    obtain ⟨last, found, digit⟩ :=
      ends (String.toList_eq_nil_iff.not.mpr naming.cert_nonempty) ending
    rw [cert_plain last found] at digit
    cases digit
  · intro ending
    obtain ⟨last, found, digit⟩ :=
      ends (String.toList_eq_nil_iff.not.mpr naming.key_nonempty) ending
    rw [key_plain last found] at digit
    cases digit

/-! ## What a run leaves -/

/-- A run returns, or the process dies after some changes of the directory. -/
inductive Ending
  | returned
  | died (changes : Nat)
deriving DecidableEq, Repr

/-- The run has got as far as a change. -/
def Ending.Reaches (ending : Ending) (change : Nat) : Prop :=
  match ending with
  | .returned => True
  | .died changes => change ≤ changes

/-- The directory that a run leaves. -/
def Saved.left (saved : Saved) (directory : Directory) : Ending → Directory
  | .returned => perform directory saved.operations
  | .died changes => perform directory (saved.operations.take changes)

/-- Both temporary files are written, as far as is reported. -/
def SaveFaults.Writes (faults : SaveFaults) : Prop :=
  faults.createDirectory = true ∧ faults.writeCertificate.isWritten = true ∧
    faults.writeKey.isWritten = true

/-- Neither temporary file has lost anything. -/
def SaveFaults.Whole (faults : SaveFaults) (certificatePem privateKeyPem : Bytes) : Prop :=
  faults.writeCertificate.stored certificatePem = certificatePem ∧
    faults.writeKey.stored privateKeyPem = privateKeyPem

/-- The run has replaced the private key: its fifth change, after two for each temporary file. -/
def KeyReplaced (faults : SaveFaults) (ending : Ending) : Prop :=
  faults.Writes ∧ faults.renameKey = true ∧ ending.Reaches 5

/-- The run has replaced the certificate as well. -/
def CertificateReplaced (faults : SaveFaults) (ending : Ending) : Prop :=
  KeyReplaced faults ending ∧ faults.renameCertificate = true ∧ ending.Reaches 6

/-- The change mentions nothing but two temporary files. -/
def Temporary (certTemp keyTemp : String) (operation : DirectoryOperation) : Prop :=
  ∀ fileName ∈ operation.names, fileName = certTemp ∨ fileName = keyTemp

variable {certificatePem privateKeyPem : Bytes} {processId certNonce keyNonce : Nat}
  {faults : SaveFaults}

theorem temporary_removeFile {certTemp keyTemp fileName : String} (possible : Bool)
    (temporary : fileName = certTemp ∨ fileName = keyTemp) :
    ∀ operation ∈ removeFile fileName possible, Temporary certTemp keyTemp operation := by
  intro operation member
  unfold removeFile at member
  split_ifs at member
  · rw [List.mem_singleton] at member
    subst member
    simpa [Temporary, Operation.names] using temporary
  · cases member

theorem temporary_writeFile {certTemp keyTemp fileName : String} (bytes : Bytes)
    (outcome : WriteOutcome) (temporary : fileName = certTemp ∨ fileName = keyTemp) :
    ∀ operation ∈ (writeFile config fileName bytes outcome).operations,
      Temporary certTemp keyTemp operation := by
  have own (content : Bytes) : Temporary certTemp keyTemp (.write fileName content) := by
    simpa [Temporary, Operation.names] using temporary
  cases outcome <;> simp [writeFile, own]

theorem writeFile_result {fileName : String} {bytes : Bytes} {outcome : WriteOutcome} :
    (writeFile config fileName bytes outcome).result = .ok () ↔ outcome.isWritten = true := by
  cases outcome <;> simp [writeFile, WriteOutcome.isWritten]

theorem writeFile_of_isWritten {fileName : String} {bytes : Bytes} {outcome : WriteOutcome}
    (written : outcome.isWritten = true) :
    writeFile config fileName bytes outcome =
      ⟨[.write fileName [], .write fileName (outcome.stored bytes)], .ok ()⟩ := by
  cases outcome with
  | written lost => rfl
  | createFailed | writeFailed | syncFailed | permissionsFailed => cases written

/-- Until the private key is replaced, a run changes nothing but its temporary files. -/
theorem save_temporary (unreplaced : ¬ (faults.Writes ∧ faults.renameKey = true)) :
    ∀ operation ∈ (saveCertificatePair config id certificatePem privateKeyPem processId certNonce
      keyNonce faults).operations,
      Temporary (temporaryPath (certPath config id) processId certNonce)
        (temporaryPath (keyPath config id) processId keyNonce) operation := by
  unfold saveCertificatePair
  dsimp only
  generalize temporaryPath (certPath config id) processId certNonce = certTemp
  generalize temporaryPath (keyPath config id) processId keyNonce = keyTemp
  have cert : ∀ operation ∈ (writeFile config certTemp certificatePem
      faults.writeCertificate).operations, Temporary certTemp keyTemp operation :=
    temporary_writeFile certificatePem faults.writeCertificate (.inl rfl)
  have key : ∀ operation ∈ (writeFile config keyTemp privateKeyPem faults.writeKey).operations,
      Temporary certTemp keyTemp operation :=
    temporary_writeFile privateKeyPem faults.writeKey (.inr rfl)
  have cert_removed : ∀ operation ∈ removeFile certTemp faults.removeCertificate,
      Temporary certTemp keyTemp operation :=
    temporary_removeFile faults.removeCertificate (.inl rfl)
  have key_removed : ∀ operation ∈ removeFile keyTemp faults.removeKey,
      Temporary certTemp keyTemp operation :=
    temporary_removeFile faults.removeKey (.inr rfl)
  cases created : faults.createDirectory with
  | false => simp
  | true =>
      rw [Bool.not_true, if_neg Bool.false_ne_true]
      split
      · exact cert
      · rename_i cert_written
        split
        · exact List.forall_mem_append.mpr ⟨List.forall_mem_append.mpr ⟨cert, key⟩, cert_removed⟩
        · rename_i key_written
          have unrenamed : faults.renameKey = false := by
            rw [← Bool.not_eq_true]
            intro renames
            exact unreplaced ⟨⟨created, writeFile_result.mp cert_written,
              writeFile_result.mp key_written⟩, renames⟩
          rw [unrenamed, Bool.not_false, if_pos rfl]
          exact List.forall_mem_append.mpr ⟨List.forall_mem_append.mpr ⟨cert, key⟩,
            List.forall_mem_append.mpr ⟨cert_removed, key_removed⟩⟩

/-- A run that replaces the private key does so after it has written both temporary files. -/
theorem save_operations (writes : faults.Writes) (renames : faults.renameKey = true) :
    (saveCertificatePair config id certificatePem privateKeyPem processId certNonce keyNonce
      faults).operations =
      [.write (temporaryPath (certPath config id) processId certNonce) [],
        .write (temporaryPath (certPath config id) processId certNonce)
          (faults.writeCertificate.stored certificatePem),
        .write (temporaryPath (keyPath config id) processId keyNonce) [],
        .write (temporaryPath (keyPath config id) processId keyNonce)
          (faults.writeKey.stored privateKeyPem),
        .rename (temporaryPath (keyPath config id) processId keyNonce) (keyPath config id)] ++
      if faults.renameCertificate then
        [.rename (temporaryPath (certPath config id) processId certNonce) (certPath config id)]
      else removeFile (temporaryPath (certPath config id) processId certNonce)
        faults.removeCertificate := by
  obtain ⟨created, cert, key⟩ := writes
  simp only [saveCertificatePair, created, writeFile_of_isWritten cert, writeFile_of_isWritten key,
    renames, Bool.not_true, Bool.false_eq_true, if_false]
  cases faults.renameCertificate with
  | false => rfl
  | true => rfl

theorem save_result :
    (saveCertificatePair config id certificatePem privateKeyPem processId certNonce keyNonce
      faults).result = .ok () ↔
      faults.Writes ∧ faults.renameKey = true ∧ faults.renameCertificate = true := by
  unfold saveCertificatePair SaveFaults.Writes
  cases faults.createDirectory with
  | false => simp
  | true =>
    cases faults.writeCertificate with
    | written =>
      cases faults.writeKey with
      | written =>
        cases faults.renameKey with
        | false => simp [writeFile]
        | true =>
          cases faults.renameCertificate with
          | false => simp [writeFile]
          | true => simp [writeFile, WriteOutcome.isWritten]
      | _ => simp [writeFile, WriteOutcome.isWritten]
    | _ => simp [writeFile, WriteOutcome.isWritten]

/-- What a run leaves comes from the changes up to its end. -/
theorem left_eq_take (saved : Saved) (directory : Directory) (ending : Ending) :
    ∃ changes, saved.left directory ending = perform directory (saved.operations.take changes) ∧
      (ending.Reaches 5 ↔ 5 ≤ changes) ∧ (ending.Reaches 6 ↔ 6 ≤ changes) := by
  cases ending with
  | returned =>
      refine ⟨saved.operations.length + 6, ?_, ?_, ?_⟩
      · rw [List.take_of_length_le (Nat.le_add_right _ 6), Saved.left]
      · exact iff_of_true trivial (by omega)
      · exact iff_of_true trivial (by omega)
  | died changes => exact ⟨changes, rfl, .rfl, .rfl⟩

variable {directory : Directory} {certBytes keyBytes : Bytes}

theorem lookup_perform_temporary {certTemp keyTemp fileName : String}
    {operations : List DirectoryOperation}
    (temporary : ∀ operation ∈ operations, Temporary certTemp keyTemp operation)
    (not_cert : fileName ≠ certTemp) (not_key : fileName ≠ keyTemp) :
    (perform directory operations).lookup fileName = directory.lookup fileName := by
  refine lookup_perform_other fun operation member named => ?_
  rcases temporary operation member fileName named with same | same
  · exact not_cert same
  · exact not_key same

/-- Replacing the private key leaves the new certificate in its temporary file. -/
theorem perform_replaceKey {certTemp keyTemp target : String} (distinct : certTemp ≠ keyTemp)
    (other : target ≠ certTemp) :
    let after := perform directory [.write certTemp [], .write certTemp certBytes,
      .write keyTemp [], .write keyTemp keyBytes, .rename keyTemp target]
    after.lookup target = some keyBytes ∧ after.lookup certTemp = some certBytes ∧
      ∀ fileName, fileName ≠ certTemp → fileName ≠ keyTemp → fileName ≠ target →
        after.lookup fileName = directory.lookup fileName := by
  intro after
  refine ⟨lookup_rename (lookup_write keyTemp keyBytes), ?_, ?_⟩
  · have rename_other :
        certTemp ∉ (Operation.rename keyTemp target : DirectoryOperation).names := by
      simp [Operation.names, distinct, other.symm]
    have write_other (bytes : Bytes) :
        certTemp ∉ (Operation.write keyTemp bytes : DirectoryOperation).names := by
      simp [Operation.names, distinct]
    simp only [after, perform_cons, perform_nil]
    rw [lookup_apply_other rename_other, lookup_apply_other (write_other _),
      lookup_apply_other (write_other _), lookup_write]
  · intro fileName not_cert not_key not_target
    refine lookup_perform_other fun operation member => ?_
    simp only [List.mem_cons, List.not_mem_nil, or_false] at member
    rcases member with rfl | rfl | rfl | rfl | rfl <;>
      simp [Operation.names, not_cert, not_key, not_target]

/-- What a run leaves in the files that the loader reads. -/
structure Leaves (config : TlsConfig) (id : String) (certBytes keyBytes : Bytes)
    (directory left : Directory) (keyReplaced certificateReplaced : Prop) : Prop where
  key_new : keyReplaced → left.lookup (keyPath config id) = some keyBytes
  key_old : ¬ keyReplaced → left.lookup (keyPath config id) = directory.lookup (keyPath config id)
  cert_new : certificateReplaced → left.lookup (certPath config id) = some certBytes
  cert_old : ¬ certificateReplaced →
    left.lookup (certPath config id) = directory.lookup (certPath config id)
  other_cert : ∀ other, other ≠ id →
    left.lookup (certPath config other) = directory.lookup (certPath config other)
  other_key : ∀ other, other ≠ id →
    left.lookup (keyPath config other) = directory.lookup (keyPath config other)

theorem Leaves.refl (config : TlsConfig) (id : String) (directory : Directory) :
    Leaves config id certBytes keyBytes directory directory False False :=
  ⟨False.elim, fun _ => rfl, False.elim, fun _ => rfl, fun _ _ => rfl, fun _ _ => rfl⟩

variable {left : Directory} {keyReplaced certificateReplaced : Prop} {certTemp keyTemp : String}

/-- Changes of the temporary files concern no file that the loader reads. -/
theorem Leaves.temporary (leaves : Leaves config id certBytes keyBytes directory left
      keyReplaced certificateReplaced)
    (cert_unread : Unread config certTemp) (key_unread : Unread config keyTemp)
    {operations : List DirectoryOperation}
    (temporary : ∀ operation ∈ operations, Temporary certTemp keyTemp operation) :
    Leaves config id certBytes keyBytes directory (perform left operations)
      keyReplaced certificateReplaced := by
  have same_cert (other : String) := @lookup_perform_temporary left _ _ _ _ temporary
    (cert_unread.ne other).1 (key_unread.ne other).1
  have same_key (other : String) := @lookup_perform_temporary left _ _ _ _ temporary
    (cert_unread.ne other).2 (key_unread.ne other).2
  constructor
  · intro replaced
    rw [same_key, leaves.key_new replaced]
  · intro kept
    rw [same_key, leaves.key_old kept]
  · intro replaced
    rw [same_cert, leaves.cert_new replaced]
  · intro kept
    rw [same_cert, leaves.cert_old kept]
  · intro other distinct
    rw [same_cert, leaves.other_cert other distinct]
  · intro other distinct
    rw [same_key, leaves.other_key other distinct]

/-- The fifth change gives the pair its new private key. -/
theorem leaves_replaceKey (naming : Naming config) (cert_unread : Unread config certTemp)
    (key_unread : Unread config keyTemp) (distinct : certTemp ≠ keyTemp) :
    let after := perform directory [.write certTemp [], .write certTemp certBytes,
      .write keyTemp [], .write keyTemp keyBytes, .rename keyTemp (keyPath config id)]
    Leaves config id certBytes keyBytes directory after True False ∧
      after.lookup certTemp = some certBytes := by
  intro after
  obtain ⟨key, cert, others⟩ := @perform_replaceKey directory certBytes keyBytes
    _ _ _ distinct (cert_unread.ne id).2
  have same_cert (other : String) :
      after.lookup (certPath config other) = directory.lookup (certPath config other) :=
    others _ (cert_unread.ne other).1 (key_unread.ne other).1
      (certPath_ne_keyPath naming.separate other id)
  refine ⟨⟨fun _ => key, fun kept => absurd trivial kept, False.elim, fun _ => same_cert id,
    fun other _ => same_cert other, ?_⟩, cert⟩
  intro other different
  exact others _ (cert_unread.ne other).2 (key_unread.ne other).2
    fun same => different (keyPath_inj same)

/-- The last change gives the pair its new certificate. -/
theorem Leaves.replaceCertificate (leaves : Leaves config id certBytes keyBytes directory
      left keyReplaced False) (naming : Naming config) (cert_unread : Unread config certTemp)
    (written : left.lookup certTemp = some certBytes) :
    Leaves config id certBytes keyBytes directory
      (apply left (.rename certTemp (certPath config id))) keyReplaced True := by
  have same {fileName : String} (not_temp : fileName ≠ certTemp)
      (not_target : fileName ≠ certPath config id) :
      (apply left (.rename certTemp (certPath config id))).lookup fileName =
        left.lookup fileName :=
    lookup_apply_other (by simp [Operation.names, not_temp, not_target])
  have same_key (other : String) := same (cert_unread.ne other).2
    (certPath_ne_keyPath naming.separate id other).symm
  constructor
  · intro replaced
    rw [same_key, leaves.key_new replaced]
  · intro kept
    rw [same_key, leaves.key_old kept]
  · exact fun _ => lookup_rename written
  · exact fun kept => absurd trivial kept
  · intro other distinct
    rw [same (cert_unread.ne other).1 fun again => distinct (certPath_inj again),
      leaves.other_cert other distinct]
  · intro other distinct
    rw [same_key, leaves.other_key other distinct]

/-- A run leaves the new private key or the old one, and so for the certificate, by how far it
has got; all other pairs stay as they were. -/
theorem save_leaves (naming : Naming config)
    (cert_unread : Unread config (temporaryPath (certPath config id) processId certNonce))
    (key_unread : Unread config (temporaryPath (keyPath config id) processId keyNonce))
    (distinct : temporaryPath (certPath config id) processId certNonce ≠
      temporaryPath (keyPath config id) processId keyNonce)
    (directory : Directory) (ending : Ending) :
    Leaves config id (faults.writeCertificate.stored certificatePem)
      (faults.writeKey.stored privateKeyPem) directory
      ((saveCertificatePair config id certificatePem privateKeyPem processId certNonce keyNonce
        faults).left directory ending)
      (KeyReplaced faults ending) (CertificateReplaced faults ending) := by
  obtain ⟨changes, left_eq, reaches_key, reaches_cert⟩ := left_eq_take
    (saveCertificatePair config id certificatePem privateKeyPem processId certNonce keyNonce faults)
    directory ending
  rw [left_eq]
  by_cases renames : faults.Writes ∧ faults.renameKey = true
  · rw [save_operations renames.1 renames.2]
    by_cases reached : 5 ≤ changes
    · have key_replaced : KeyReplaced faults ending :=
        ⟨renames.1, renames.2, reaches_key.mpr reached⟩
      obtain ⟨leaves, written⟩ := @leaves_replaceKey config id directory
        (faults.writeCertificate.stored certificatePem) (faults.writeKey.stored privateKeyPem) _ _
        naming cert_unread key_unread distinct
      rw [List.take_append, perform_append, List.take_of_length_le reached, eq_true key_replaced]
      by_cases last : faults.renameCertificate = true ∧ 6 ≤ changes
      · obtain ⟨renames_cert, finished⟩ := last
        have cert_replaced : CertificateReplaced faults ending :=
          ⟨key_replaced, renames_cert, reaches_cert.mpr finished⟩
        rw [if_pos renames_cert, List.take_of_length_le (Nat.le_sub_of_add_le' finished),
          eq_true cert_replaced, perform_cons, perform_nil]
        exact leaves.replaceCertificate naming cert_unread written
      · have cert_kept : ¬ CertificateReplaced faults ending := fun replaced =>
          last ⟨replaced.2.1, reaches_cert.mp replaced.2.2⟩
        rw [eq_false cert_kept]
        refine leaves.temporary cert_unread key_unread fun operation member => ?_
        split_ifs at member with renames_cert
        · have stopped : changes = 5 := by
            by_contra later
            exact last ⟨renames_cert, by omega⟩
          subst stopped
          cases member
        · exact temporary_removeFile faults.removeCertificate (.inl rfl) operation
            (List.mem_of_mem_take member)
    · have key_kept : ¬ KeyReplaced faults ending := fun replaced =>
        reached (reaches_key.mp replaced.2.2)
      rw [eq_false key_kept, eq_false fun replaced : CertificateReplaced faults ending =>
        key_kept replaced.1]
      refine (Leaves.refl config id directory).temporary cert_unread key_unread
        fun operation member => ?_
      -- the first four changes fill the temporary files
      rw [← Nat.min_eq_left (show changes ≤ 4 by omega), ← List.take_take] at member
      have filled := List.mem_of_mem_take member
      simp only [List.cons_append, List.take_succ_cons, List.take_zero, List.mem_cons,
        List.not_mem_nil, or_false] at filled
      rcases filled with rfl | rfl | rfl | rfl <;> simp [Temporary, Operation.names]
  · have key_kept : ¬ KeyReplaced faults ending := fun replaced =>
      renames ⟨replaced.1, replaced.2.1⟩
    rw [eq_false key_kept, eq_false fun replaced : CertificateReplaced faults ending =>
      key_kept replaced.1]
    exact (Leaves.refl config id directory).temporary cert_unread key_unread fun operation member =>
      save_temporary renames operation (List.mem_of_mem_take member)

/-! ## All or nothing -/

variable {Certificate PrivateKey CertifiedKey : Type}
  {library : TlsLibrary Certificate PrivateKey CertifiedKey}

/-- The files of a pair are what they were. -/
def Kept (config : TlsConfig) (id : String) (directory left : Directory) : Prop :=
  left.lookup (certPath config id) = directory.lookup (certPath config id) ∧
    left.lookup (keyPath config id) = directory.lookup (keyPath config id)

/-- The files of a pair are the new ones. -/
def Replaced (config : TlsConfig) (id : String) (certificatePem privateKeyPem : Bytes)
    (left : Directory) : Prop :=
  left.lookup (certPath config id) = some certificatePem ∧
    left.lookup (keyPath config id) = some privateKeyPem

/-- The directory loads, in whatever order its files are visited. -/
def Loads (library : TlsLibrary Certificate PrivateKey CertifiedKey) (config : TlsConfig)
    (directory : Directory) : Prop :=
  ∀ listing visiting, ∃ index, loadIndex library config listing visiting directory = .ok index

/-- A run that reports an error leaves the old pair, one that reports success the new one, and one
that dies either of them; and but for a success the directory goes on loading. -/
def AllOrNothing (library : TlsLibrary Certificate PrivateKey CertifiedKey) (config : TlsConfig)
    (id : String) (certificatePem privateKeyPem : Bytes) (directory : Directory) (saved : Saved)
    (ending : Ending) : Prop :=
  let left := saved.left directory ending
  match ending with
  | .returned =>
      (∀ reason, saved.result = .error reason →
        Kept config id directory left ∧ Loads library config left) ∧
        (saved.result = .ok () → Replaced config id certificatePem privateKeyPem left)
  | .died _ =>
      (Kept config id directory left ∨ Replaced config id certificatePem privateKeyPem left) ∧
        Loads library config left

theorem loads_iff (naming : Naming config) (directory : Directory) :
    Loads library config directory ↔ Loadable library config directory := by
  constructor
  · intro loads
    exact (loadIndex_isOk_iff naming.separate (.same _) (.same _) directory).mp (loads _ _)
  · intro loadable listing visiting
    exact (loadIndex_isOk_iff naming.separate listing visiting directory).mpr loadable

/-- The names of a pair come from its certificate. -/
theorem metadata_unique {certificateBytes keyBytes other : Bytes}
    {first second : CertifiedKey × CertificateMetadata}
    (one : parseCertificatePair library id certificateBytes keyBytes = .ok first)
    (another : parseCertificatePair library id certificateBytes other = .ok second) :
    first.2 = second.2 := by
  have leaf_metadata {bytes : Bytes} {read : CertifiedKey × CertificateMetadata}
      (parsed : parseCertificatePair library id certificateBytes bytes = .ok read) :
      ∃ leaf ∈ (library.certs certificateBytes).bind List.head?,
        parseLeafMetadata library id leaf = .ok read.2 := by
    unfold parseCertificatePair at parsed
    split at parsed
    · cases parsed
    · cases parsed
    · rename_i leaf chain certificates
      refine ⟨leaf, by rw [certificates]; rfl, ?_⟩
      split at parsed
      · cases parsed
      · cases parsed
      · split at parsed
        · cases parsed
        · obtain ⟨metadata, found, same⟩ := map_eq_ok.mp parsed
          rw [← same]
          exact found
  obtain ⟨leaf, leaf_mem, found⟩ := leaf_metadata one
  obtain ⟨again, again_mem, also⟩ := leaf_metadata another
  cases Option.mem_unique leaf_mem again_mem
  exact Except.ok.inj (found.symm.trans also)

namespace Leaves

variable {read : CertifiedKey × CertificateMetadata}

/-- A directory that keeps the files of a pair goes on loading. -/
theorem loads_of_kept (leaves : Leaves config id certBytes keyBytes directory left
      keyReplaced certificateReplaced) (naming : Naming config)
    (loadable : Loadable library config directory) (kept : Kept config id directory left) :
    Loads library config left := by
  apply (loads_iff naming left).mpr
  apply loadable.congr
  · intro other
    by_cases same : other = id
    · rw [same, kept.1]
    · exact leaves.other_cert other same
  · intro other
    by_cases same : other = id
    · rw [same, kept.2]
    · exact leaves.other_key other same

/-- A directory with the new pair loads unless another pair has one of its names. -/
theorem loads_iff_of_replaced (leaves : Leaves config id certBytes keyBytes directory left
      keyReplaced certificateReplaced) (naming : Naming config) (nonempty : id ≠ "")
    (loadable : Loadable library config directory)
    (parsed : parseCertificatePair library id certificatePem privateKeyPem = .ok read)
    (replaced : Replaced config id certificatePem privateKeyPem left) :
    Loads library config left ↔ Unclaimed library config directory id read.2 :=
  (loads_iff naming left).trans
    (loadable.replace_iff nonempty parsed replaced.1 replaced.2 leaves.other_cert
      leaves.other_key)

/-- Without a new certificate, the pair is the old one when its private key is. -/
theorem kept_iff (leaves : Leaves config id certBytes keyBytes directory left
      keyReplaced certificateReplaced) (cert_kept : ¬ certificateReplaced) :
    Kept config id directory left ↔
      (keyReplaced → directory.lookup (keyPath config id) = some keyBytes) := by
  constructor
  · intro kept replaced
    rw [← kept.2, leaves.key_new replaced]
  · intro same
    refine ⟨leaves.cert_old cert_kept, ?_⟩
    by_cases replaced : keyReplaced
    · rw [leaves.key_new replaced, same replaced]
    · exact leaves.key_old replaced

/-- A pair that has been replaced is the new one when nothing has been lost. -/
theorem replaced_iff (leaves : Leaves config id certBytes keyBytes directory left
      keyReplaced certificateReplaced) (key_replaced : keyReplaced)
    (cert_replaced : certificateReplaced) (certificatePem privateKeyPem : Bytes) :
    Replaced config id certificatePem privateKeyPem left ↔
      certBytes = certificatePem ∧ keyBytes = privateKeyPem := by
  rw [Replaced, leaves.cert_new cert_replaced, leaves.key_new key_replaced, Option.some_inj,
    Option.some_inj]

/-- A pair that has been replaced is the old one only when that was the same. -/
theorem kept_iff_of_replaced (leaves : Leaves config id certBytes keyBytes directory left
      keyReplaced certificateReplaced) (key_replaced : keyReplaced)
    (cert_replaced : certificateReplaced) :
    Kept config id directory left ↔ directory.lookup (certPath config id) = some certBytes ∧
      directory.lookup (keyPath config id) = some keyBytes := by
  rw [Kept, leaves.cert_new cert_replaced, leaves.key_new key_replaced]
  exact and_congr eq_comm eq_comm

end Leaves

/-- A certificate that the directory holds already claims no name of another pair. -/
theorem unclaimed_of_present {read : CertifiedKey × CertificateMetadata}
    (loadable : Loadable library config directory)
    (parsed : parseCertificatePair library id certificatePem privateKeyPem = .ok read)
    (present : directory.lookup (certPath config id) = some certificatePem) :
    Unclaimed library config directory id read.2 := by
  intro other distinct other_read other_parsed
  obtain ⟨own_read, own_parsed⟩ := loadable.parsed id (Table.mem_iff_lookup.mpr ⟨_, present⟩)
  have disjoint := loadable.unshared id other (Ne.symm distinct) own_read other_read own_parsed
    other_parsed
  obtain ⟨certificateBytes, keyBytes, cert, _, own⟩ := readPair_named_eq_ok.mp own_parsed
  cases present.symm.trans cert
  rw [metadata_unique parsed own]
  exact disjoint

namespace Leaves

variable {read : CertifiedKey × CertificateMetadata}

/-- A pair that keeps its certificate is the old one, or the new one when the certificate was new
already; either way the directory loads. -/
theorem settled_of_cert_kept (leaves : Leaves config id certBytes keyBytes directory left
      keyReplaced certificateReplaced) (naming : Naming config) (nonempty : id ≠ "")
    (loadable : Loadable library config directory)
    (parsed : parseCertificatePair library id certificatePem privateKeyPem = .ok read)
    (cert_kept : ¬ certificateReplaced) :
    (Kept config id directory left ∨ Replaced config id certificatePem privateKeyPem left) ∧
        Loads library config left ↔
      (keyReplaced → directory.lookup (keyPath config id) = some keyBytes ∨
        keyBytes = privateKeyPem ∧
          directory.lookup (certPath config id) = some certificatePem) := by
  constructor
  · rintro ⟨kept | replaced, _⟩ key_replaced
    · exact .inl ((leaves.kept_iff cert_kept).mp kept key_replaced)
    · refine .inr ⟨?_, ?_⟩
      · exact Option.some.inj ((leaves.key_new key_replaced).symm.trans replaced.2)
      · rw [← leaves.cert_old cert_kept, replaced.1]
  · intro halfway
    by_cases key_replaced : keyReplaced
    · rcases halfway key_replaced with same_key | ⟨whole_key, same_cert⟩
      · have kept := (leaves.kept_iff cert_kept).mpr fun _ => same_key
        exact ⟨.inl kept, leaves.loads_of_kept naming loadable kept⟩
      · have replaced : Replaced config id certificatePem privateKeyPem left :=
          ⟨(leaves.cert_old cert_kept).trans same_cert,
            (leaves.key_new key_replaced).trans (congrArg some whole_key)⟩
        have unclaimed := unclaimed_of_present loadable parsed same_cert
        exact ⟨.inr replaced,
          (leaves.loads_iff_of_replaced naming nonempty loadable parsed replaced).mpr unclaimed⟩
    · have kept := (leaves.kept_iff cert_kept).mpr fun again => absurd again key_replaced
      exact ⟨.inl kept, leaves.loads_of_kept naming loadable kept⟩

/-- A pair both of whose files have been replaced is the new one when nothing has been lost, and
then the directory loads unless another pair has one of its names. -/
theorem settled_of_cert_replaced (leaves : Leaves config id certBytes keyBytes directory left
      keyReplaced certificateReplaced) (naming : Naming config) (nonempty : id ≠ "")
    (loadable : Loadable library config directory)
    (parsed : parseCertificatePair library id certificatePem privateKeyPem = .ok read)
    (key_replaced : keyReplaced) (cert_replaced : certificateReplaced) :
    (Kept config id directory left ∨ Replaced config id certificatePem privateKeyPem left) ∧
        Loads library config left ↔
      (certBytes = certificatePem ∧ keyBytes = privateKeyPem) ∧
          Unclaimed library config directory id read.2 ∨
        directory.lookup (certPath config id) = some certBytes ∧
          directory.lookup (keyPath config id) = some keyBytes := by
  have replaced_iff := leaves.replaced_iff key_replaced cert_replaced certificatePem privateKeyPem
  have kept_iff := leaves.kept_iff_of_replaced key_replaced cert_replaced
  constructor
  · rintro ⟨kept | replaced, loads⟩
    · exact .inr (kept_iff.mp kept)
    · exact .inl ⟨replaced_iff.mp replaced,
        (leaves.loads_iff_of_replaced naming nonempty loadable parsed replaced).mp loads⟩
  · rintro (⟨whole, unclaimed⟩ | old)
    · have replaced := replaced_iff.mpr whole
      exact ⟨.inr replaced,
        (leaves.loads_iff_of_replaced naming nonempty loadable parsed replaced).mpr unclaimed⟩
    · have kept := kept_iff.mpr old
      exact ⟨.inl kept, leaves.loads_of_kept naming loadable kept⟩

end Leaves

/-- A run reports success when it replaces the certificate. -/
theorem save_ok_iff :
    (saveCertificatePair config id certificatePem privateKeyPem processId certNonce keyNonce
      faults).result = .ok () ↔ CertificateReplaced faults .returned := by
  rw [save_result]
  exact ⟨fun ⟨writes, key, cert⟩ => ⟨⟨writes, key, trivial⟩, cert, trivial⟩,
    fun ⟨⟨writes, key, _⟩, cert, _⟩ => ⟨writes, key, cert⟩⟩

theorem save_error_iff :
    (∃ reason, (saveCertificatePair config id certificatePem privateKeyPem processId certNonce
      keyNonce faults).result = .error reason) ↔ ¬ CertificateReplaced faults .returned := by
  rw [← @save_ok_iff config id certificatePem privateKeyPem processId certNonce keyNonce faults]
  cases (saveCertificatePair config id certificatePem privateKeyPem processId certNonce keyNonce
    faults).result with
  | ok value => simp
  | error reason => simp

theorem id_of_validate {field : String} (accepted : validateCertificateId field id = .ok ()) :
    id ≠ "" ∧ '/' ∉ id.toList := by
  simp only [validateCertificateId, bind_eq_ok, ensure_eq_ok, exists_const] at accepted
  obtain ⟨nonempty, allowed⟩ := accepted
  refine ⟨nonempty, fun member => ?_⟩
  have slash := List.all_eq_true.mp allowed '/' member
  cases slash

/-- Saving a pair is all or nothing as long as no run gets as far as replacing the private key and
no further, unless the pair was halfway there already, no run replaces both files by less than the
new ones, unless that is what the pair was, and no other pair of the directory has one of the new
names.  The temporary files are not to be read as files of a pair. -/
theorem saveCertificatePair_allOrNothing {written : TlsConfig} {base : List Char}
    (accepted : written.validate base = .ok config) {field : String}
    (id_accepted : validateCertificateId field id = .ok ())
    {listing : Order String} {visiting : Order Pair} {index : CertificateIndex CertifiedKey}
    (loaded : loadIndex library config listing visiting directory = .ok index)
    {read : CertifiedKey × CertificateMetadata}
    (parsed : parseCertificatePair library id certificatePem privateKeyPem = .ok read)
    (cert_unread : Unread config (temporaryPath (certPath config id) processId certNonce))
    (key_unread : Unread config (temporaryPath (keyPath config id) processId keyNonce))
    (faults : SaveFaults) (ending : Ending) :
    AllOrNothing library config id certificatePem privateKeyPem directory
        (saveCertificatePair config id certificatePem privateKeyPem processId certNonce keyNonce
          faults) ending ↔
      (KeyReplaced faults ending → ¬ CertificateReplaced faults ending →
        directory.lookup (keyPath config id) = some (faults.writeKey.stored privateKeyPem) ∨
          ending ≠ .returned ∧ faults.writeKey.stored privateKeyPem = privateKeyPem ∧
            directory.lookup (certPath config id) = some certificatePem) ∧
      (CertificateReplaced faults ending →
        faults.Whole certificatePem privateKeyPem ∧
            (ending ≠ .returned → Unclaimed library config directory id read.2) ∨
          ending ≠ .returned ∧
            directory.lookup (certPath config id) =
              some (faults.writeCertificate.stored certificatePem) ∧
            directory.lookup (keyPath config id) =
              some (faults.writeKey.stored privateKeyPem)) := by
  have naming := naming_of_validate accepted
  obtain ⟨nonempty, plain⟩ := id_of_validate id_accepted
  have loadable := (loadIndex_isOk_iff naming.separate listing visiting directory).mp ⟨_, loaded⟩
  have leaves := @save_leaves config id certificatePem privateKeyPem processId certNonce keyNonce
    faults naming cert_unread key_unread
    (temporaries_distinct naming nonempty plain processId certNonce keyNonce) directory ending
  cases ending with
  | returned =>
      have succeeds := @save_ok_iff config id certificatePem privateKeyPem processId certNonce
        keyNonce faults
      have errs := @save_error_iff config id certificatePem privateKeyPem processId certNonce
        keyNonce faults
      dsimp only [AllOrNothing]
      constructor
      · rintro ⟨failing, succeeding⟩
        constructor
        · intro key_replaced cert_kept
          obtain ⟨reason, failed⟩ := errs.mpr cert_kept
          exact .inl ((leaves.kept_iff cert_kept).mp (failing reason failed).1 key_replaced)
        · intro cert_replaced
          have whole := (leaves.replaced_iff cert_replaced.1 cert_replaced _ _).mp
            (succeeding (succeeds.mpr cert_replaced))
          exact .inl ⟨whole, fun died => absurd rfl died⟩
      · rintro ⟨halfway, through⟩
        constructor
        · intro reason failed
          have cert_kept := errs.mp ⟨reason, failed⟩
          have kept := (leaves.kept_iff cert_kept).mpr fun key_replaced =>
            (halfway key_replaced cert_kept).resolve_right fun died => died.1 rfl
          exact ⟨kept, leaves.loads_of_kept naming loadable kept⟩
        · intro succeeded
          have cert_replaced := succeeds.mp succeeded
          obtain ⟨whole, _⟩ := (through cert_replaced).resolve_right fun died => died.1 rfl
          exact (leaves.replaced_iff cert_replaced.1 cert_replaced _ _).mpr whole
  | died changes =>
      have died : Ending.died changes ≠ .returned := Ending.noConfusion
      dsimp only [AllOrNothing]
      by_cases cert_replaced : CertificateReplaced faults (.died changes)
      · rw [leaves.settled_of_cert_replaced naming nonempty loadable parsed cert_replaced.1
          cert_replaced]
        simp [cert_replaced, died, SaveFaults.Whole]
      · rw [leaves.settled_of_cert_kept naming nonempty loadable parsed cert_replaced]
        simp [cert_replaced, died]

/-! ## A renewal that stops halfway -/

/-- The certificate of a gateway, before and after its renewal. -/
inductive Issue
  | first
  | renewed
deriving DecidableEq

def Issue.certificate : Issue → Bytes
  | .first => pemFile "CERTIFICATE" [
    "MIIBEzCBxqADAgECAhQysfwWB9V4KmC+Oo09SpSpXCJtWjAFBgMrZXAwDDEKMAgG",
    "A1UEAwwBYTAeFw0yNjExMTkwMjM1MjVaFw0zNjExMTYwMjM1MjVaMAwxCjAIBgNV",
    "BAMMAWEwKjAFBgMrZXADIQAzmlSeU3ruWZ944+Wh0sJJ2Cq5oaYZzWCxb3vFYXGf",
    "K6M6MDgwFwYDVR0RBBAwDoIMZ2F0ZXdheS50ZXN0MB0GA1UdDgQWBBT2ebpZPbXJ",
    "U5WwAHrqtK0kR/YjijAFBgMrZXADQQCrlhyf6K10ZIIyzWkrIps+7Df0Gcm1KQSB",
    "uCp4knLMYYbWVX5pSNOCAc+0TcIXwXUgqdDlkIy8nFC3jVfYM8sB"]
  | .renewed => pemFile "CERTIFICATE" [
    "MIIBEzCBxqADAgECAhQegnGdM5GOoC0i90OlnbV3FLyOPDAFBgMrZXAwDDEKMAgG",
    "A1UEAwwBYTAeFw0yNjExMTkwMjM1MjVaFw0zNjExMTYwMjM1MjVaMAwxCjAIBgNV",
    "BAMMAWEwKjAFBgMrZXADIQDwdcvPwPtlfSL4tY3TET/WKbMJoVN44OV1+JGrq3hL",
    "bKM6MDgwFwYDVR0RBBAwDoIMZ2F0ZXdheS50ZXN0MB0GA1UdDgQWBBQDMtWNLCMH",
    "beh3uqDUIMG7JeC2MTAFBgMrZXADQQAwW0Y4uvE6t3L0HmhrjgU+mowdjE1K625L",
    "MTOwj1x4bb/1G09C8NOon7FvxHI4KlTb11WtEO7OUVt842eGMCYM"]

def Issue.privateKey : Issue → Bytes
  | .first => pemFile "PRIVATE KEY" [
    "MC4CAQAwBQYDK2VwBCIEIFu8Gpagx54CFxgAn8obwhlrZmDAm1VwqDZNlRuu0KTh"]
  | .renewed => pemFile "PRIVATE KEY" [
    "MC4CAQAwBQYDK2VwBCIEIKLcdTyc3/UYNI8MVvcStble6bIvUHsz+R8YdaYfAFF4"]

/-- What the TLS libraries do with the two certificates and their private keys. -/
def gatewayLibrary : TlsLibrary Issue Issue Issue :=
  knownLibrary [.first, .renewed] Issue.certificate Issue.privateKey fun _ => ["gateway.test"]

def gatewayTls : TlsConfig := { certDir := "/etc/gateway/certs" }

/-- The directory before the renewal. -/
def gatewayDirectory : Directory :=
  ((∅ : Directory).insert "gateway.fullchain.pem" Issue.first.certificate).insert
    "gateway.key.pem" Issue.first.privateKey

/-- The renewal of the gateway's certificate. -/
def gatewayRenewal (faults : SaveFaults) : Saved :=
  saveCertificatePair gatewayTls "gateway" Issue.renewed.certificate Issue.renewed.privateKey 812
    1753000000 1753000040 faults

theorem gatewayDirectory_loads : (loadIndex gatewayLibrary gatewayTls (.same _) (.same _)
    gatewayDirectory).isOk = true := by
  decide +kernel

theorem renewed_parses : (parseCertificatePair gatewayLibrary "gateway" Issue.renewed.certificate
    Issue.renewed.privateKey).isOk = true := by
  decide +kernel

/-- A renewal that cannot replace the private key leaves the old pair, and one without any failure
leaves the new pair. -/
theorem gatewayRenewal_allOrNothing :
    AllOrNothing gatewayLibrary gatewayTls "gateway" Issue.renewed.certificate
        Issue.renewed.privateKey gatewayDirectory (gatewayRenewal { renameKey := false })
        .returned ∧
      AllOrNothing gatewayLibrary gatewayTls "gateway" Issue.renewed.certificate
        Issue.renewed.privateKey gatewayDirectory (gatewayRenewal {}) .returned := by
  obtain ⟨index, loaded⟩ := exists_of_isOk gatewayDirectory_loads
  obtain ⟨read, parsed⟩ := exists_of_isOk renewed_parses
  have accepted : gatewayTls.validate [] = .ok gatewayTls := by decide +kernel
  have id_accepted : validateCertificateId "acme.certificates[0].id" "gateway" = .ok () := by
    decide +kernel
  have suffixes : gatewayTls.certSuffix.toList.getLast? = some 'm' ∧
      gatewayTls.keySuffix.toList.getLast? = some 'm' := by
    decide +kernel
  have plain {suffix : List Char} (ends : suffix.getLast? = some 'm') :
      ∀ last ∈ suffix.getLast?, last.isDigit = false := by
    intro last found
    cases ends.symm.trans found
    rfl
  have unread (path : String) (nonce : Nat) : Unread gatewayTls (temporaryPath path 812 nonce) :=
    unread_temporaryPath (naming_of_validate accepted) (plain suffixes.1) (plain suffixes.2) path
      812 nonce
  have settled (faults : SaveFaults) := saveCertificatePair_allOrNothing accepted id_accepted loaded
    parsed (unread _ 1753000000) (unread _ 1753000040) faults .returned
  constructor
  · have key_kept : ¬ KeyReplaced { renameKey := false } .returned := by
      rintro ⟨_, renames, _⟩
      cases renames
    exact (settled { renameKey := false }).mpr
      ⟨fun replaced => absurd replaced key_kept, fun replaced => absurd replaced.1 key_kept⟩
  · have replaced : CertificateReplaced {} .returned :=
      ⟨⟨⟨rfl, rfl, rfl⟩, rfl, trivial⟩, rfl, trivial⟩
    have whole : SaveFaults.Whole {} Issue.renewed.certificate Issue.renewed.privateKey :=
      ⟨WriteOutcome.stored_written _, WriteOutcome.stored_written _⟩
    exact (settled {}).mpr
      ⟨fun _ kept => absurd replaced kept, fun _ => .inl ⟨whole, fun died => absurd rfl died⟩⟩

/-- A renewal whose disk is full when the private key is written, which nobody reports. -/
def silentRenewal : Saved := gatewayRenewal { writeKey := .written 200 }

/-- A renewal that replaces the private key and then cannot replace the certificate reports an
error and leaves a pair that does not match, and one that loses the private key reports success;
neither directory loads. -/
theorem gatewayRenewal_not_allOrNothing :
    gatewayTls.validate [] = .ok gatewayTls ∧
      validateCertificateId "acme.certificates[0].id" "gateway" = .ok () ∧
      (loadIndex gatewayLibrary gatewayTls (.same _) (.same _) gatewayDirectory).isOk = true ∧
      (parseCertificatePair gatewayLibrary "gateway" Issue.renewed.certificate
        Issue.renewed.privateKey).isOk = true ∧
      (gatewayRenewal { renameCertificate := false }).result =
        .error ("failed to replace /etc/gateway/certs/gateway.fullchain.pem with " ++
          "/etc/gateway/certs/.gateway.fullchain.pem.tmp-812-1753000000") ∧
      (loadIndex gatewayLibrary gatewayTls (.same _) (.same _)
        ((gatewayRenewal { renameCertificate := false }).left gatewayDirectory
          .returned)).isOk = false ∧
      ¬ AllOrNothing gatewayLibrary gatewayTls "gateway" Issue.renewed.certificate
        Issue.renewed.privateKey gatewayDirectory (gatewayRenewal { renameCertificate := false })
        .returned ∧
      silentRenewal.result = .ok () ∧
      (loadIndex gatewayLibrary gatewayTls (.same _) (.same _)
        (silentRenewal.left gatewayDirectory .returned)).isOk = false ∧
      ¬ AllOrNothing gatewayLibrary gatewayTls "gateway" Issue.renewed.certificate
        Issue.renewed.privateKey gatewayDirectory silentRenewal .returned := by
  have failed : (gatewayRenewal { renameCertificate := false }).result =
      .error ("failed to replace /etc/gateway/certs/gateway.fullchain.pem with " ++
        "/etc/gateway/certs/.gateway.fullchain.pem.tmp-812-1753000000") := by
    decide +kernel
  have rejected : (loadIndex gatewayLibrary gatewayTls (.same _) (.same _)
      ((gatewayRenewal { renameCertificate := false }).left gatewayDirectory
        .returned)).isOk = false := by
    decide +kernel
  have silent : silentRenewal.result = .ok () := by decide +kernel
  have lost : (silentRenewal.left gatewayDirectory .returned).lookup "gateway.key.pem" =
      some [] := by
    decide +kernel
  refine ⟨by decide +kernel, by decide +kernel, gatewayDirectory_loads, renewed_parses, failed,
    rejected, fun kept => ?_, silent, by decide +kernel, fun kept => ?_⟩
  · obtain ⟨index, loaded⟩ := (kept.1 _ failed).2 (.same _) (.same _)
    have accepted := congrArg Except.isOk loaded
    cases rejected.symm.trans accepted
  · have replaced : (silentRenewal.left gatewayDirectory .returned).lookup "gateway.key.pem" =
        some Issue.renewed.privateKey := (kept.2 silent).2
    cases Option.some.inj (lost.symm.trans replaced)

end EdgeGateway.Acme
