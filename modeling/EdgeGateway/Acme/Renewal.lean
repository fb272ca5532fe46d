import EdgeGateway.Library.SignedInteger
import EdgeGateway.Tls.Store
import Mathlib.Data.Finset.Dedup

/-!
# When a certificate is renewed

A managed certificate is issued when it is missing, when its names are not the configured ones, or
when its time has come: the CA suggests a window, from which each certificate takes an instant of
its own, and without a window the end of the certificate decides.
-/

namespace EdgeGateway.Acme

open EdgeGateway.Configuration SignedInteger Tls

/-! ## The instant of a certificate -/

/-- The FNV-1a hash of bytes. -/
def fnv (bytes : List UInt8) : UInt64 :=
  bytes.foldl (fun hash byte => (hash ^^^ byte.toUInt64) * 0x100000001b3) 0xcbf29ce484222325

/-- The instant of a window at which a certificate is renewed. -/
def renewalTarget (start stop : Int64) (certificateId : String) : Int64 :=
  let span := saturatingSub stop start
  if span ≤ 1 then
    start
  else
    let hash := fnv certificateId.toUTF8.data.toList
    let span := (toUnsigned span).getD 0xffffffffffffffff
    saturatingAdd start ((ofUnsigned (hash % span)).getD 0)

/-! ## Whether a certificate is due -/

/-- The time in seconds, from what the system says has passed since the epoch. -/
def unixNow : Option UInt64 → Int64
  | some seconds => (ofUnsigned seconds).getD Int64.maxValue
  | none => 0

/-- What is known of the current certificate of an id. -/
structure CurrentCertificate (Certificate : Type) extends CertificateMetadata where
  leafCertificate : Certificate
  notAfterUnix : Int64

/-- The current certificate has the configured names, wildcards aside. -/
def domainsMatch {Certificate : Type} (metadata : CurrentCertificate Certificate)
    (desired : AcmeCertificateConfig) : Bool :=
  (metadata.dnsNames.filter fun name => (Text.stripPrefix "*." name).isNone).toFinset =
    desired.domains.toFinset

/-- What the CA says about renewing a certificate. -/
inductive RenewalAnswer
  | window (start stop : Int64)
  | unsupported
  | failed

/-- The libraries and the CA, as one call finds them. -/
structure RenewalQueries (Certificate Identifier : Type) where
  /-- The name under which the CA knows a certificate, if it can be formed. -/
  identify : Certificate → Option Identifier
  renewalInfo : Identifier → RenewalAnswer

/-- The end of the certificate is close. -/
def expires (notAfterUnix now : Int64) (fallbackRenewBefore : UInt64) : Bool :=
  saturatingSub notAfterUnix now ≤ (ofUnsigned fallbackRenewBefore).getD Int64.maxValue

/-- Whether a managed certificate is to be issued; `clock` is the reading that decides. -/
def shouldIssue {Certificate Identifier : Type} (queries : RenewalQueries Certificate Identifier)
    (metadata : Option (CurrentCertificate Certificate)) (desired : AcmeCertificateConfig)
    (fallbackRenewBefore : UInt64) (clock : Option UInt64) : Bool :=
  match metadata with
  | none => true
  | some metadata =>
      if !domainsMatch metadata desired then
        true
      else
        let fallback := expires metadata.notAfterUnix (unixNow clock) fallbackRenewBefore
        match queries.identify metadata.leafCertificate with
        | none => fallback
        | some identifier =>
            match queries.renewalInfo identifier with
            | .window start stop =>
                if start < stop then renewalTarget start stop desired.id ≤ unixNow clock
                else fallback
            | .unsupported => fallback
            | .failed => fallback

/-! ## The instant lies in the window -/

section Window

variable {start stop : Int64}

/-- In a window of more than a second no conversion fails, and the sum does not saturate. -/
theorem renewalTarget_exact (certificateId : String) (wide : 1 < saturatingSub stop start) :
    ∃ span offset, toUnsigned (saturatingSub stop start) = some span ∧
      ofUnsigned (fnv certificateId.toUTF8.data.toList % span) = some offset ∧
      0 ≤ offset.toInt ∧ start.toInt + offset.toInt < stop.toInt ∧
      (renewalTarget start stop certificateId).toInt = start.toInt + offset.toInt := by
  rw [Int64.lt_iff_toInt_lt] at wide
  have one : (1 : Int64).toInt = 1 := rfl
  have capped : (saturatingSub stop start).toInt =
      max (-9223372036854775808) (min (stop.toInt - start.toInt) 9223372036854775807) :=
    toInt_clamp _
  have start_range := range start
  have stop_range := range stop
  have span_range := range (saturatingSub stop start)
  obtain ⟨span, converted, span_eq⟩ := toUnsigned_of_nonneg (saturatingSub stop start) (by omega)
  have below : (fnv certificateId.toUTF8.data.toList % span).toNat < span.toNat := by
    rw [UInt64.toNat_mod]
    exact Nat.mod_lt _ (by omega)
  obtain ⟨offset, signed, offset_eq⟩ :=
    ofUnsigned_of_lt (fnv certificateId.toUTF8.data.toList % span) (by omega)
  refine ⟨span, offset, converted, signed, by omega, by omega, ?_⟩
  have narrow : ¬saturatingSub stop start ≤ 1 := by
    rw [Int64.le_iff_toInt_le]
    omega
  have target : renewalTarget start stop certificateId = saturatingAdd start offset := by
    simp only [renewalTarget, narrow, if_false, converted, Option.getD_some, signed]
  rw [target, saturatingAdd, toInt_clamp]
  omega

/-- The instant lies in the window, also where the length of the window is out of range. -/
theorem renewalTarget_range (certificateId : String) (opens : start < stop) :
    start ≤ renewalTarget start stop certificateId ∧
      renewalTarget start stop certificateId < stop := by
  by_cases wide : 1 < saturatingSub stop start
  · obtain ⟨_, offset, _, _, nonneg, inside, exact_sum⟩ :=
      renewalTarget_exact certificateId wide
    rw [Int64.le_iff_toInt_le, Int64.lt_iff_toInt_lt, exact_sum]
    omega
  · have narrow : saturatingSub stop start ≤ 1 := Int64.not_lt.mp wide
    have target : renewalTarget start stop certificateId = start := if_pos narrow
    rw [target]
    exact ⟨Int64.le_refl start, opens⟩

end Window

/-! ## A certificate that is due stays due -/

/-- The clock has not been set back between two readings; before the epoch it reads nothing. -/
def Passes (earlier later : Option UInt64) : Prop :=
  ∀ seconds, earlier = some seconds → ∃ more, later = some more ∧ seconds ≤ more

theorem unixNow_mono {earlier later : Option UInt64} (passes : Passes earlier later) :
    unixNow earlier ≤ unixNow later := by
  cases earlier with
  | none =>
      cases later with
      | none => exact Int64.le_refl 0
      | some more =>
          rw [unixNow, unixNow, getD_ofUnsigned, show (0 : Int64) = clamp 0 from rfl]
          exact clamp_mono (Int.natCast_nonneg _)
  | some seconds =>
      obtain ⟨more, rfl, le⟩ := passes seconds rfl
      rw [unixNow, unixNow, getD_ofUnsigned, getD_ofUnsigned]
      exact clamp_mono (Int.ofNat_le.mpr (UInt64.le_iff_toNat_le.mp le))

/-- With the same answers about the same certificate, what is due stays due. -/
theorem shouldIssue_mono {Certificate Identifier : Type}
    (queries : RenewalQueries Certificate Identifier)
    (metadata : Option (CurrentCertificate Certificate)) (desired : AcmeCertificateConfig)
    (fallbackRenewBefore : UInt64) {earlier later : Option UInt64} (passes : Passes earlier later)
    (due : shouldIssue queries metadata desired fallbackRenewBefore earlier = true) :
    shouldIssue queries metadata desired fallbackRenewBefore later = true := by
  have le := unixNow_mono passes
  cases metadata with
  | none => rfl
  | some metadata =>
      have expiring (close : expires metadata.notAfterUnix (unixNow earlier) fallbackRenewBefore) :
          expires metadata.notAfterUnix (unixNow later) fallbackRenewBefore :=
        decide_eq_true (Int64.le_trans (saturatingSub_anti le) (of_decide_eq_true close))
      rw [shouldIssue] at due ⊢
      generalize domainsMatch metadata desired = named at due ⊢
      cases named with
      | false => rfl
      | true =>
          simp only [Bool.not_true, Bool.false_eq_true, if_false] at due ⊢
          cases identified : queries.identify metadata.leafCertificate with
          | none =>
              rw [identified] at due
              exact expiring due
          | some identifier =>
              rw [identified] at due
              cases answered : queries.renewalInfo identifier with
              | unsupported =>
                  simp only [answered] at due ⊢
                  exact expiring due
              | failed =>
                  simp only [answered] at due ⊢
                  exact expiring due
              | window start stop =>
                  simp only [answered] at due ⊢
                  by_cases opens : start < stop
                  · rw [if_pos opens] at due ⊢
                    exact decide_eq_true (Int64.le_trans (of_decide_eq_true due) le)
                  · rw [if_neg opens] at due ⊢
                    exact expiring due

/-- The renewal target lies in the window of the CA, whatever its length and whatever the id: no
conversion fails and no sum saturates on the way.  A certificate that is due for a window stays due
as long as the CA answers with it, since the target is the same at every reading of the clock. -/
theorem renewal_target_in_window (start stop : Int64) (certificateId : String)
    (opens : start < stop) :
    (start ≤ renewalTarget start stop certificateId ∧
      renewalTarget start stop certificateId < stop) ∧
    (1 < saturatingSub stop start → ∃ span offset,
      toUnsigned (saturatingSub stop start) = some span ∧
      ofUnsigned (fnv certificateId.toUTF8.data.toList % span) = some offset ∧
      (renewalTarget start stop certificateId).toInt = start.toInt + offset.toInt) ∧
    ∀ {Certificate Identifier : Type} (queries : RenewalQueries Certificate Identifier)
      (metadata : Option (CurrentCertificate Certificate)) (domains : List String)
      (fallbackRenewBefore : UInt64) (earlier later : Option UInt64),
      (∀ identifier, queries.renewalInfo identifier = .window start stop) →
      Passes earlier later →
      shouldIssue queries metadata ⟨certificateId, domains⟩ fallbackRenewBefore earlier = true →
      shouldIssue queries metadata ⟨certificateId, domains⟩ fallbackRenewBefore later = true := by
  refine ⟨renewalTarget_range certificateId opens, ?_, ?_⟩
  · intro wide
    obtain ⟨span, offset, converted, signed, _, _, exact_sum⟩ :=
      renewalTarget_exact certificateId wide
    exact ⟨span, offset, converted, signed, exact_sum⟩
  · intro _ _ queries metadata domains fallbackRenewBefore earlier later _ passes due
    exact shouldIssue_mono queries metadata _ fallbackRenewBefore passes due

/-- The widest window of all, whose length is out of range. -/
theorem renewal_target_in_window_widest :
    Int64.minValue ≤ renewalTarget Int64.minValue Int64.maxValue "gateway" ∧
      renewalTarget Int64.minValue Int64.maxValue "gateway" < Int64.maxValue :=
  (renewal_target_in_window Int64.minValue Int64.maxValue "gateway" (by decide)).1

end EdgeGateway.Acme
