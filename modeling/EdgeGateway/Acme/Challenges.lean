import EdgeGateway.Acme.Renewal
import EdgeGateway.Library.Procedures
import EdgeGateway.Library.Table

/-!
# Ordering certificates

A certificate is ordered from the CA, which asks for proof that the names are ours: it fetches a
key authorization over plain HTTP under a token of its own.  The listener that answers starts with
the first challenge of a batch of orders.  An order may fail at every one of its steps; the trace
of what is called, with the challenges that are served at the moment, shows what the CA can find.
-/

namespace EdgeGateway.Acme

open EdgeGateway.Configuration Procedures

/-! ## The listener -/

/-- The key authorizations that are served, by token. -/
structure Http01Server where
  challenges : Table String String

namespace Http01Server

/-- A listener that has just started. -/
def started : Http01Server := ⟨∅⟩

def publish (server : Http01Server) (token keyAuthorization : String) : Http01Server :=
  ⟨server.challenges.insert token keyAuthorization⟩

def remove (server : Http01Server) (token : String) : Http01Server :=
  ⟨server.challenges.erase token⟩

end Http01Server

/-! ## The answers of an order -/

inductive AuthorizationStatus
  | pending
  | valid
  | invalid
  | revoked
  | expired
  | deactivated
  deriving DecidableEq, Repr

/-- A status as messages show it. -/
def AuthorizationStatus.debug : AuthorizationStatus → String
  | pending => "Pending"
  | valid => "Valid"
  | invalid => "Invalid"
  | revoked => "Revoked"
  | expired => "Expired"
  | deactivated => "Deactivated"

inductive OrderStatus
  | pending
  | ready
  | processing
  | valid
  | invalid
  deriving DecidableEq, Repr

/-- A status as messages show it. -/
def OrderStatus.debug : OrderStatus → String
  | pending => "Pending"
  | ready => "Ready"
  | processing => "Processing"
  | valid => "Valid"
  | invalid => "Invalid"

/-- A challenge over HTTP, and whether the CA takes note that it is ready. -/
structure Challenge where
  token : String
  keyAuthorization : String
  setReady : Bool

structure Authorization where
  status : AuthorizationStatus
  challenge : Option Challenge

/-- What the steps of an order come to, one after the other. -/
structure OrderAnswers (Certificate : Type) where
  newOrder : Bool
  /-- The authorizations in turn; nothing where one cannot be loaded. -/
  authorizations : List (Option Authorization)
  startListener : Except String Unit
  pollReady : Option OrderStatus
  finalize : Bool
  pollCertificate : Bool
  validateReplacement : Option (CurrentCertificate Certificate)
  saveCertificatePair : Except String Unit
  reload : Bool

/-- The token of an authorization. -/
def tokenOf (answer : Option Authorization) : Option String :=
  (answer.bind Authorization.challenge).map Challenge.token

/-- The tokens of some authorizations. -/
def tokensOf (authorizations : List (Option Authorization)) : List String :=
  authorizations.filterMap tokenOf

/-- The tokens of an order. -/
def OrderAnswers.tokens {Certificate : Type} (answers : OrderAnswers Certificate) : List String :=
  tokensOf answers.authorizations

/-! ## The trace -/

/-- An order for the names of a certificate, in place of an earlier one. -/
structure OrderRequest (Identifier : Type) where
  identifiers : List String
  replaces : Option Identifier

/-- What is called on the way. -/
inductive Action (Identifier : Type)
  | newOrder (request : OrderRequest Identifier)
  | nextAuthorization
  | startListener (succeeds : Bool)
  | publish (token keyAuthorization : String)
  | setReady (token keyAuthorization : String)
  | pollReady
  | finalize
  | pollCertificate
  | validateReplacement
  | saveCertificatePair
  | reload

/-- A call, and the listener at the time. -/
structure Moment (Identifier : Type) where
  action : Action Identifier
  http01 : Option Http01Server

/-- The state of an order: the listener of the batch, the tokens that have been published, and the
calls so far. -/
structure Progress (Identifier : Type) where
  http01 : Option Http01Server
  published : List String
  moments : List (Moment Identifier)

variable {Certificate Identifier : Type}

/-- A part of an order. -/
abbrev Step (Identifier Value : Type) := Procedure (Progress Identifier) String Value

/-- Note a call. -/
def note (action : Action Identifier) : Step Identifier PUnit :=
  modify fun progress =>
    { progress with moments := progress.moments ++ [⟨action, progress.http01⟩] }

/-- A call that succeeds, or fails with an error. -/
def ask (action : Action Identifier) (answer : Except String Unit) : Step Identifier PUnit := do
  note action
  match answer with
  | .ok _ => pure ()
  | .error error => throw error

/-- An answer with the error that stands for its failure. -/
def orElse (succeeds : Bool) (error : String) : Except String Unit :=
  if succeeds then .ok () else .error error

/-! ## Challenges -/

/-- Start the listener, unless it runs. -/
def ensureListener (answer : Except String Unit) : Step Identifier PUnit := do
  if (← get).http01.isNone then
    ask (.startListener answer.isOk) answer
    modify fun progress => { progress with http01 := some .started }

/-- Serve a key authorization under its token, and remember the token. -/
def publish (token keyAuthorization : String) : Step Identifier PUnit := do
  note (.publish token keyAuthorization)
  modify fun progress =>
    { progress with
      http01 := progress.http01.map fun server => server.publish token keyAuthorization }
  modify fun progress => { progress with published := progress.published ++ [token] }

/-- Answer a challenge: the response is published before the CA is told that it is ready. -/
def answerChallenge (startListener : Except String Unit) (challenge : Challenge) :
    Step Identifier PUnit := do
  if challenge.token = "" ∨ '/' ∈ challenge.token.toList then
    throw "ACME server returned an invalid HTTP-01 token"
  else
    ensureListener startListener
    if (← get).http01.isNone then
      throw "ACME HTTP-01 listener failed to initialize"
    else
      publish challenge.token challenge.keyAuthorization
      ask (.setReady challenge.token challenge.keyAuthorization)
        (orElse challenge.setReady "failed to mark ACME HTTP-01 challenge ready")

/-- One authorization of an order. -/
def authorize (startListener : Except String Unit) (answer : Option Authorization) :
    Step Identifier PUnit := do
  note .nextAuthorization
  match answer with
  | none => throw "failed to load ACME authorization"
  | some authorization =>
      match authorization.status with
      | .valid => pure ()
      | .pending =>
          match authorization.challenge with
          | none => throw "ACME authorization has no HTTP-01 challenge"
          | some challenge => answerChallenge startListener challenge
      | status => throw ("unexpected ACME authorization status " ++ status.debug)

/-! ## Orders -/

/-- The part of an order that the cleanup follows. -/
def operation (desired : AcmeCertificateConfig) (answers : OrderAnswers Certificate) :
    Step Identifier PUnit := do
  answers.authorizations.forM (authorize answers.startListener)
  note .nextAuthorization
  ask .pollReady (match answers.pollReady with
    | none => .error "failed while waiting for ACME authorizations"
    | some .ready => .ok ()
    | some status => .error ("unexpected ACME order status after validation: " ++ status.debug))
  ask .finalize (orElse answers.finalize "failed to finalize ACME order")
  ask .pollCertificate
    (orElse answers.pollCertificate "failed while waiting for ACME certificate")
  ask .validateReplacement (match answers.validateReplacement with
    | none => .error ("issued certificate " ++ desired.id.quote ++
        " failed pre-activation TLS validation")
    | some candidate => orElse (domainsMatch candidate desired)
        ("issued certificate SANs do not match configured domains for " ++ desired.id.quote))
  ask .saveCertificatePair answers.saveCertificatePair
  ask .reload (orElse answers.reload
    ("new certificate " ++ desired.id.quote ++ " could not be published to the TLS store"))

/-- How an order ends: its operation, the listener after the cleanup, and the result. -/
structure Issued (Identifier : Type) where
  operation : Progress Identifier
  http01 : Option Http01Server
  result : Except String Unit

/-- An order that the CA has been asked for, in place of the current certificate. -/
def ordered (identify : Certificate → Option Identifier)
    (existing : Option (CurrentCertificate Certificate)) (http01 : Option Http01Server)
    (desired : AcmeCertificateConfig) : Progress Identifier where
  http01 := http01
  published := []
  moments := [⟨.newOrder ⟨desired.domains, existing.bind fun metadata =>
    identify metadata.leafCertificate⟩, http01⟩]

/-- The listener once the published tokens have been removed. -/
def cleanUp (progress : Progress Identifier) : Option Http01Server :=
  progress.http01.map fun server => progress.published.foldl Http01Server.remove server

/-- Order a certificate, with the listener of the batch. -/
def issueCertificate (identify : Certificate → Option Identifier)
    (existing : Option (CurrentCertificate Certificate)) (http01 : Option Http01Server)
    (desired : AcmeCertificateConfig) (answers : OrderAnswers Certificate) : Issued Identifier :=
  let ordered := ordered identify existing http01 desired
  if answers.newOrder then
    { operation := (operation desired answers).after ordered
      http01 := cleanUp ((operation desired answers).after ordered)
      result := (operation desired answers).outcome ordered }
  else
    { operation := ordered
      http01 := http01
      result := .error ("failed to create ACME order for " ++ desired.id.quote) }

/-! ## Batches -/

/-- A managed certificate with all that an order of it finds. -/
structure Due (Certificate : Type) where
  desired : AcmeCertificateConfig
  existing : Option (CurrentCertificate Certificate)
  answers : OrderAnswers Certificate

/-- A batch of orders: the listener that they share, the calls so far and the failures so far. -/
structure Batch (Identifier : Type) where
  http01 : Option Http01Server
  moments : List (Moment Identifier)
  failures : List String

/-- The batch after one more order. -/
def Batch.issue (identify : Certificate → Option Identifier) (batch : Batch Identifier)
    (due : Due Certificate) : Batch Identifier :=
  let issued := issueCertificate identify due.existing batch.http01 due.desired due.answers
  { http01 := issued.http01
    moments := batch.moments ++ issued.operation.moments
    failures := batch.failures ++ match issued.result with
      | .ok _ => []
      | .error error => [due.desired.id ++ ": " ++ error] }

/-- All orders of a batch. -/
def issueAll (identify : Certificate → Option Identifier) (due : List (Due Certificate)) :
    Batch Identifier :=
  due.foldl (Batch.issue identify) ⟨none, [], []⟩

/-- A managed certificate at the time of a cycle, and what an order of it finds if it is due. -/
structure Managed (Certificate Identifier : Type) where
  desired : AcmeCertificateConfig
  queries : RenewalQueries Certificate Identifier
  metadata : Option (CurrentCertificate Certificate)
  clock : Option UInt64
  existing : Option (CurrentCertificate Certificate)
  answers : OrderAnswers Certificate

/-- The certificates that are due. -/
def dueCertificates (fallbackRenewBefore : UInt64)
    (certificates : List (Managed Certificate Identifier)) : List (Due Certificate) :=
  (certificates.filter fun managed =>
    shouldIssue managed.queries managed.metadata managed.desired fallbackRenewBefore
      managed.clock).map fun managed => ⟨managed.desired, managed.existing, managed.answers⟩

/-- One cycle: what it reports, and the batch of its orders; the listener of the batch is shut down
afterwards. -/
def runCycle (enabled : Bool) (account : Except String Unit) (fallbackRenewBefore : UInt64)
    (identify : Certificate → Option Identifier)
    (certificates : List (Managed Certificate Identifier)) :
    Except String Unit × Batch Identifier :=
  if !enabled then
    (.ok (), ⟨none, [], []⟩)
  else
    match account with
    | .error error => (.error error, ⟨none, [], []⟩)
    | .ok _ =>
        let batch := issueAll identify (dueCertificates fallbackRenewBefore certificates)
        if batch.failures.isEmpty then
          (.ok (), batch)
        else
          (.error ("one or more ACME certificate operations failed: " ++
            "; ".intercalate batch.failures), batch)

/-! ## What the steps of an order may do -/

/-- The call changes neither the listener nor what it serves, and announces nothing. -/
def Action.Plain : Action Identifier → Prop
  | startListener succeeds => succeeds = false
  | publish _ _ => False
  | setReady _ _ => False
  | _ => True

namespace Progress

/-- One more call. -/
def noted (progress : Progress Identifier) (action : Action Identifier) : Progress Identifier :=
  { progress with moments := progress.moments ++ [⟨action, progress.http01⟩] }

/-- The listener starts. -/
def listening (progress : Progress Identifier) : Progress Identifier :=
  { progress.noted (.startListener true) with http01 := some .started }

/-- A challenge is served. -/
def serving (progress : Progress Identifier) (server : Http01Server)
    (token keyAuthorization : String) : Progress Identifier where
  http01 := some (server.publish token keyAuthorization)
  published := progress.published ++ [token]
  moments := progress.moments ++ [⟨.publish token keyAuthorization, progress.http01⟩]

end Progress

/-- What the steps of an order keep, in terms of the tokens that are still to come. -/
structure Rules (kept : List String → Progress Identifier → Prop) : Prop where
  plain : ∀ {upcoming progress} (action), Action.Plain action →
    kept upcoming progress → kept upcoming (progress.noted action)
  listen : ∀ {upcoming progress}, progress.http01 = none →
    kept upcoming progress → kept upcoming progress.listening
  announce : ∀ {upcoming progress server token} (keyAuthorization),
    progress.http01 = some server → kept (token :: upcoming) progress →
      kept upcoming ((progress.serving server token keyAuthorization).noted
        (.setReady token keyAuthorization))
  skip : ∀ {upcoming progress token}, kept (token :: upcoming) progress → kept upcoming progress

namespace Rules

open Procedure

variable {kept : List String → Progress Identifier → Prop} {upcoming : List String}

theorem note (rules : Rules kept) (action : Action Identifier) (plain : action.Plain) :
    Leads (kept upcoming) (note action) (kept upcoming) :=
  leads_modify fun _ holds => rules.plain action plain holds

theorem ask (rules : Rules kept) (action : Action Identifier) (plain : action.Plain)
    (answer : Except String Unit) : Leads (kept upcoming) (ask action answer) (kept upcoming) := by
  refine (rules.note action plain).bind (fun _ => ?_) (fun _ holds => holds)
  cases answer with
  | ok => exact leads_pure fun _ holds => holds
  | error => exact leads_throw fun _ holds => holds

theorem ensureListener (rules : Rules kept) (answer : Except String Unit) :
    Leads (kept upcoming) (ensureListener answer) (kept upcoming) := by
  refine leads_get fun progress holds => leads_ite ?_ ?_
  · rintro silent state rfl
    cases answer with
    | ok => exact rules.listen (Option.isNone_iff_eq_none.mp silent) holds
    | error error => exact rules.plain (.startListener false) rfl holds
  · rintro _ state rfl
    exact holds

theorem answerChallenge (rules : Rules kept) (startListener : Except String Unit)
    (challenge : Challenge) :
    Leads (kept (challenge.token :: upcoming)) (answerChallenge startListener challenge)
      (kept upcoming) := by
  refine leads_ite (fun _ => leads_throw fun _ => rules.skip) fun _ => ?_
  refine (rules.ensureListener startListener).bind (fun _ => ?_) fun _ => rules.skip
  refine leads_get fun progress holds => leads_ite ?_ ?_
  · rintro _ state rfl
    exact rules.skip holds
  · rintro listening state rfl
    obtain ⟨server, runs⟩ :=
      Option.ne_none_iff_exists'.mp (mt Option.isNone_iff_eq_none.mpr listening)
    have announced := rules.announce challenge.keyAuthorization runs holds
    obtain ⟨http01, published, moments⟩ := state
    obtain ⟨token, keyAuthorization, ready⟩ := challenge
    cases runs
    cases ready with
    | true => exact announced
    | false => exact announced

theorem authorize (rules : Rules kept) (startListener : Except String Unit)
    (answer : Option Authorization) (rest : List (Option Authorization)) :
    Leads (kept (tokensOf (answer :: rest))) (authorize startListener answer)
      (kept (tokensOf rest)) := by
  have skip (state : Progress Identifier) (holds : kept (tokensOf (answer :: rest)) state) :
      kept (tokensOf rest) state := by
    cases named : tokenOf answer with
    | none => rwa [tokensOf, List.filterMap_cons_none named] at holds
    | some token =>
        rw [tokensOf, List.filterMap_cons_some named] at holds
        exact rules.skip holds
  refine (rules.note .nextAuthorization trivial).bind (fun _ => ?_) skip
  cases answer with
  | none => exact leads_throw skip
  | some authorization =>
      obtain ⟨status, challenge⟩ := authorization
      cases status with
      | valid => exact leads_pure skip
      | pending =>
          cases challenge with
          | none => exact leads_throw skip
          | some challenge => exact rules.answerChallenge startListener challenge
      | invalid => exact leads_throw skip
      | revoked => exact leads_throw skip
      | expired => exact leads_throw skip
      | deactivated => exact leads_throw skip

theorem skipAll (rules : Rules kept) {progress : Progress Identifier}
    (holds : kept upcoming progress) : kept [] progress := by
  induction upcoming with
  | nil => exact holds
  | cons token upcoming ih => exact ih (rules.skip holds)

/-- What the steps keep holds at whichever exit of the operation. -/
theorem operation (rules : Rules kept) (desired : AcmeCertificateConfig)
    (answers : OrderAnswers Certificate) :
    Leads (kept answers.tokens) (operation desired answers) (kept []) := by
  have same (state : Progress Identifier) (holds : kept [] state) : kept [] state := holds
  have loop := leads_forM (fun rest => kept (tokensOf rest)) answers.authorizations
    (rules.authorize answers.startListener) fun _ _ => rules.skipAll
  refine loop.bind (fun _ => ?_) same
  refine (rules.note .nextAuthorization trivial).bind (fun _ => ?_) same
  refine (rules.ask .pollReady trivial _).bind (fun _ => ?_) same
  refine (rules.ask .finalize trivial _).bind (fun _ => ?_) same
  refine (rules.ask .pollCertificate trivial _).bind (fun _ => ?_) same
  refine (rules.ask .validateReplacement trivial _).bind (fun _ => ?_) same
  refine (rules.ask .saveCertificatePair trivial _).bind (fun _ => ?_) same
  exact rules.ask .reload trivial _

end Rules

/-! ## Challenges are served as long as the CA may ask -/

/-- A key authorization is served under its token. -/
def Serves (http01 : Option Http01Server) (token keyAuthorization : String) : Prop :=
  ∃ server, http01 = some server ∧ server.challenges.lookup token = some keyAuthorization

/-- A challenge is served when the CA is told that it is ready, and at every later call. -/
def Steady (moments : List (Moment Identifier)) : Prop :=
  (∀ moment ∈ moments, ∀ token keyAuthorization,
    moment.action = .setReady token keyAuthorization →
      Serves moment.http01 token keyAuthorization) ∧
  moments.Pairwise fun earlier later => ∀ token keyAuthorization,
    earlier.action = .setReady token keyAuthorization →
      Serves later.http01 token keyAuthorization

theorem Steady.append {moments : List (Moment Identifier)} (steady : Steady moments)
    {moment : Moment Identifier}
    (served : ∀ earlier ∈ moments ++ [moment], ∀ token keyAuthorization,
      earlier.action = .setReady token keyAuthorization →
        Serves moment.http01 token keyAuthorization) :
    Steady (moments ++ [moment]) := by
  obtain ⟨own, later⟩ := steady
  constructor
  · intro other member token keyAuthorization told
    rcases List.mem_append.mp member with earlier | last
    · exact own other earlier token keyAuthorization told
    · obtain rfl := List.mem_singleton.mp last
      exact served other member token keyAuthorization told
  · refine List.pairwise_append.mpr ⟨later, List.pairwise_singleton _ _, ?_⟩
    intro earlier member last same
    rw [List.mem_singleton.mp same]
    exact served earlier (List.mem_append_left _ member)

/-- What the steps of an order keep of its challenges. -/
structure Sound (upcoming : List String) (progress : Progress Identifier) : Prop where
  distinct : upcoming.Nodup
  fresh : ∀ token ∈ progress.published, token ∉ upcoming
  steady : Steady progress.moments
  ready : ∀ moment ∈ progress.moments, ∀ token keyAuthorization,
    moment.action = .setReady token keyAuthorization →
      Serves progress.http01 token keyAuthorization ∧ token ∈ progress.published
  listed : ∀ moment ∈ progress.moments, ∀ token keyAuthorization,
    moment.action = .publish token keyAuthorization → token ∈ progress.published

variable {upcoming : List String} {progress : Progress Identifier}

theorem Sound.noted (sound : Sound upcoming progress) (action : Action Identifier)
    (announces : ∀ token keyAuthorization, action = .setReady token keyAuthorization →
      Serves progress.http01 token keyAuthorization ∧ token ∈ progress.published)
    (publishes : ∀ token keyAuthorization, action = .publish token keyAuthorization →
      token ∈ progress.published) : Sound upcoming (progress.noted action) := by
  obtain ⟨distinct, fresh, steady, ready, listed⟩ := sound
  have told : ∀ moment ∈ progress.moments ++ [⟨action, progress.http01⟩],
      ∀ token keyAuthorization, moment.action = .setReady token keyAuthorization →
        Serves progress.http01 token keyAuthorization ∧ token ∈ progress.published := by
    intro moment member
    rcases List.mem_append.mp member with earlier | last
    · exact ready moment earlier
    · rw [List.mem_singleton.mp last]
      exact announces
  refine ⟨distinct, fresh, steady.append ?_, told, ?_⟩
  · intro moment member token keyAuthorization same
    exact (told moment member token keyAuthorization same).1
  · intro moment member
    rcases List.mem_append.mp member with earlier | last
    · exact listed moment earlier
    · rw [List.mem_singleton.mp last]
      exact publishes

/-- Starting the listener loses nothing, since nothing has been served before. -/
theorem Sound.listening (sound : Sound upcoming progress) (silent : progress.http01 = none) :
    Sound upcoming progress.listening := by
  have started := sound.noted (.startListener true) nofun nofun
  obtain ⟨distinct, fresh, steady, ready, listed⟩ := started
  refine ⟨distinct, fresh, steady, ?_, listed⟩
  intro moment member token keyAuthorization told
  obtain ⟨⟨server, runs, _⟩, _⟩ := ready moment member token keyAuthorization told
  cases silent.symm.trans runs

theorem Sound.serving {server : Http01Server} {token : String} (keyAuthorization : String)
    (sound : Sound (token :: upcoming) progress) (runs : progress.http01 = some server) :
    Sound upcoming (progress.serving server token keyAuthorization) := by
  obtain ⟨distinct, fresh, steady, ready, listed⟩ := sound
  obtain ⟨absent, rest⟩ := List.nodup_cons.mp distinct
  refine ⟨rest, ?_, steady.append ?_, ?_, ?_⟩
  · intro other member
    rcases List.mem_append.mp member with earlier | last
    · exact List.not_mem_of_not_mem_cons (fresh other earlier)
    · rwa [List.mem_singleton.mp last]
  · intro moment member other key told
    rcases List.mem_append.mp member with earlier | last
    · exact (ready moment earlier other key told).1
    · rw [List.mem_singleton.mp last] at told
      cases told
  · intro moment member other key told
    rcases List.mem_append.mp member with earlier | last
    · -- An earlier token is another one, so publishing this one does not touch it.
      obtain ⟨⟨server', runs', served⟩, known⟩ := ready moment earlier other key told
      obtain rfl := Option.some.inj (runs.symm.trans runs')
      have different : other ≠ token := List.ne_of_not_mem_cons (fresh other known)
      refine ⟨⟨_, rfl, ?_⟩, List.mem_append_left _ known⟩
      exact (AList.lookup_insert_ne different).trans served
    · rw [List.mem_singleton.mp last] at told
      cases told
  · intro moment member other key published
    rcases List.mem_append.mp member with earlier | last
    · exact List.mem_append_left _ (listed moment earlier other key published)
    · rw [List.mem_singleton.mp last] at published
      cases published
      exact List.mem_append_right _ (List.mem_singleton_self _)

theorem sound_rules : Rules (@Sound Identifier) where
  plain action plain sound := by
    refine sound.noted action ?_ ?_
    · rintro token keyAuthorization rfl
      cases plain
    · rintro token keyAuthorization rfl
      cases plain
  listen silent sound := sound.listening silent
  announce keyAuthorization runs sound := by
    refine (sound.serving keyAuthorization runs).noted _ ?_ nofun
    intro token key same
    cases same
    exact ⟨⟨_, rfl, AList.lookup_insert _⟩, List.mem_append_right _ (List.mem_singleton_self _)⟩
  skip sound :=
    { sound with
      distinct := (List.nodup_cons.mp sound.distinct).2
      fresh := fun token member => List.not_mem_of_not_mem_cons (sound.fresh token member) }

/-! ## One listener for a batch -/

/-- The call has started the listener. -/
def startsListener (moment : Moment Identifier) : Bool :=
  match moment.action with
  | .startListener succeeds => succeeds
  | _ => false

/-- The number of listeners that run. -/
def running (http01 : Option Http01Server) : Nat :=
  if http01.isSome then 1 else 0

/-- The listeners that have been started, those before the order included, are the ones that run. -/
def Started (earlier : Nat) (progress : Progress Identifier) : Prop :=
  earlier + progress.moments.countP startsListener = running progress.http01

theorem countP_noted (progress : Progress Identifier) (action : Action Identifier) :
    (progress.noted action).moments.countP startsListener =
      progress.moments.countP startsListener +
        if startsListener ⟨action, progress.http01⟩ then 1 else 0 := by
  rw [Progress.noted, List.countP_append, List.countP_singleton]

theorem started_rules (earlier : Nat) :
    Rules fun _ (progress : Progress Identifier) => Started earlier progress where
  plain {_ progress} action plain started := by
    have silent : startsListener ⟨action, progress.http01⟩ = false := by
      cases action with
      | startListener succeeds => exact plain
      | _ => rfl
    rw [Started, countP_noted, silent]
    exact started
  listen {_ progress} silent started := by
    have before : earlier + progress.moments.countP startsListener = 0 := by
      rw [show _ = running progress.http01 from started, silent]
      rfl
    have after : earlier + (progress.noted (.startListener true)).moments.countP startsListener =
        1 := by
      rw [countP_noted, ← Nat.add_assoc, before]
      rfl
    exact after
  announce {_ progress server token} keyAuthorization runs started := by
    have one : earlier + progress.moments.countP startsListener = 1 := by
      rw [show _ = running progress.http01 from started, runs]
      rfl
    rw [Started, countP_noted, Progress.serving, List.countP_append]
    exact one
  skip started := started

/-! ## Orders and batches -/

/-- What the steps of an order keep holds where its operation ends, and the cleanup follows. -/
theorem issueCertificate_kept {kept : List String → Progress Identifier → Prop} (rules : Rules kept)
    {identify : Certificate → Option Identifier}
    {existing : Option (CurrentCertificate Certificate)} {http01 : Option Http01Server}
    {desired : AcmeCertificateConfig}
    (answers : OrderAnswers Certificate)
    (start : kept answers.tokens (ordered identify existing http01 desired)) :
    kept [] (issueCertificate identify existing http01 desired answers).operation ∧
      (issueCertificate identify existing http01 desired answers).http01 =
        cleanUp (issueCertificate identify existing http01 desired answers).operation := by
  by_cases accepted : answers.newOrder = true
  · rw [issueCertificate, if_pos accepted]
    exact ⟨rules.operation desired answers _ start, rfl⟩
  · rw [issueCertificate, if_neg accepted]
    refine ⟨rules.skipAll start, ?_⟩
    cases http01 with
    | none => rfl
    | some server => rfl

/-- No token that has been published is left. -/
theorem not_serves_cleanUp {progress : Progress Identifier} {token : String}
    (published : token ∈ progress.published) (keyAuthorization : String) :
    ¬Serves (cleanUp progress) token keyAuthorization := by
  rintro ⟨server, runs, served⟩
  obtain ⟨left, _, rfl⟩ := Option.map_eq_some_iff.mp runs
  have erased (tokens : List String) (server : Http01Server) :
      (tokens.foldl Http01Server.remove server).challenges =
        tokens.foldl (fun table token => table.erase token) server.challenges := by
    induction tokens generalizing server with
    | nil => rfl
    | cons token tokens ih => exact ih (server.remove token)
  rw [erased, Table.lookup_foldl_erase, if_pos published] at served
  cases served

theorem running_cleanUp (progress : Progress Identifier) :
    running (cleanUp progress) = running progress.http01 := by
  rw [running, cleanUp, Option.isSome_map, running]

/-- The listeners that the orders of a batch have started are the ones that run. -/
theorem issueAll_started (identify : Certificate → Option Identifier)
    (due : List (Due Certificate)) :
    (issueAll identify due).moments.countP startsListener =
      running (issueAll identify due).http01 := by
  have step (batch : Batch Identifier) (next : Due Certificate)
      (started : batch.moments.countP startsListener = running batch.http01) :
      (batch.issue identify next).moments.countP startsListener =
        running (batch.issue identify next).http01 := by
    have start : Started (running batch.http01)
        (ordered identify next.existing batch.http01 next.desired) := Nat.add_zero _
    obtain ⟨ended, cleaned⟩ :=
      issueCertificate_kept (started_rules (running batch.http01)) next.answers start
    rw [Batch.issue, List.countP_append, started, cleaned, running_cleanUp]
    exact ended
  rw [issueAll]
  generalize first : (⟨none, [], []⟩ : Batch Identifier) = batch
  have started : batch.moments.countP startsListener = running batch.http01 := by
    rw [← first]
    rfl
  clear first
  induction due generalizing batch with
  | nil => exact started
  | cons next due ih => exact ih (batch.issue identify next) (step batch next started)

/-- With an account, a cycle is the batch of what is due. -/
theorem runCycle_ok (identify : Certificate → Option Identifier) (fallbackRenewBefore : UInt64)
    (certificates : List (Managed Certificate Identifier)) :
    (runCycle true (.ok ()) fallbackRenewBefore identify certificates).2 =
      issueAll identify (dueCertificates fallbackRenewBefore certificates) := by
  simp only [runCycle, Bool.not_true, Bool.false_eq_true, if_false]
  split_ifs
  · rfl
  · rfl

/-- Challenges are served before they are announced and never left behind.  Wherever an order ends,
each challenge has been served since before the CA was told that it is ready and is served until
the operation ends, and of the tokens that were published none is served once the order returns.
A cycle starts at most one listener. -/
theorem challenges_served_and_removed (identify : Certificate → Option Identifier) :
    (∀ existing http01 desired (answers : OrderAnswers Certificate), answers.tokens.Nodup →
      let issued := issueCertificate identify existing http01 desired answers
      (∀ front moment back token keyAuthorization,
        issued.operation.moments = front ++ moment :: back →
        moment.action = .setReady token keyAuthorization →
        (∀ later ∈ moment :: back, Serves later.http01 token keyAuthorization) ∧
          Serves issued.operation.http01 token keyAuthorization) ∧
      ∀ moment ∈ issued.operation.moments, ∀ token keyAuthorization,
        moment.action = .publish token keyAuthorization →
        ∀ other, ¬Serves issued.http01 token other) ∧
    ∀ enabled account fallbackRenewBefore certificates,
      (runCycle enabled account fallbackRenewBefore identify certificates).2.moments.countP
        startsListener ≤ 1 := by
  refine ⟨?_, ?_⟩
  · intro existing http01 desired answers distinct issued
    have start : Sound answers.tokens (ordered identify existing http01 desired) := by
      refine ⟨distinct, nofun, ⟨?_, List.pairwise_singleton _ _⟩, ?_, ?_⟩ <;>
        · intro moment member token keyAuthorization same
          rw [List.mem_singleton.mp member] at same
          cases same
    obtain ⟨sound, cleaned⟩ := issueCertificate_kept sound_rules answers start
    refine ⟨?_, ?_⟩
    · intro front moment back token keyAuthorization split told
      have member : moment ∈ issued.operation.moments := by
        rw [split]
        exact List.mem_append_right _ List.mem_cons_self
      have later := (List.pairwise_append.mp (split ▸ sound.steady.2)).2.1
      refine ⟨?_, (sound.ready moment member token keyAuthorization told).1⟩
      intro other following
      rcases List.mem_cons.mp following with rfl | after
      · exact sound.steady.1 other member token keyAuthorization told
      · exact (List.pairwise_cons.mp later).1 other after token keyAuthorization told
    · intro moment member token keyAuthorization published other
      have known := sound.listed moment member token keyAuthorization published
      rw [show issued.http01 = _ from cleaned]
      exact not_serves_cleanUp known other
  · intro enabled account fallbackRenewBefore certificates
    have one (due : List (Due Certificate)) :
        (issueAll identify due).moments.countP startsListener ≤ 1 := by
      rw [issueAll_started, running]
      split_ifs
      · exact Nat.le_refl 1
      · exact Nat.zero_le 1
    cases enabled with
    | false => exact Nat.zero_le 1
    | true =>
        cases account with
        | error error => exact Nat.zero_le 1
        | ok =>
            rw [runCycle_ok]
            exact one _

/-- An order that fails when the CA is told that its one challenge is ready. -/
def abandonedOrder : OrderAnswers Unit where
  newOrder := true
  authorizations := [some ⟨.valid, none⟩, some ⟨.pending, some ⟨"token", "token.key", false⟩⟩]
  startListener := .ok ()
  pollReady := none
  finalize := false
  pollCertificate := false
  validateReplacement := none
  saveCertificatePair := .ok ()
  reload := false

def abandoned : Issued Unit :=
  issueCertificate (fun _ => none) none none ⟨"gateway", ["gateway.test"]⟩ abandonedOrder

theorem challenges_served_and_removed_abandoned :
    Serves abandoned.operation.http01 "token" "token.key" ∧
      ∀ other, ¬Serves abandoned.http01 "token" other := by
  obtain ⟨served, removed⟩ := (challenges_served_and_removed fun _ : Unit => (none : Option Unit)).1
    none none ⟨"gateway", ["gateway.test"]⟩ abandonedOrder (List.nodup_singleton _)
  refine ⟨(served (abandoned.operation.moments.take 5) ⟨.setReady "token" "token.key",
    some (Http01Server.started.publish "token" "token.key")⟩ [] "token" "token.key" rfl rfl).2, ?_⟩
  exact removed ⟨.publish "token" "token.key", some .started⟩
    (List.mem_of_getElem? (show abandoned.operation.moments[4]? = _ from rfl)) "token" "token.key"
    rfl

end EdgeGateway.Acme
