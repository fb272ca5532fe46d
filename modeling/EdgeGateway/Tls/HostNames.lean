import EdgeGateway.Routing.Authority
import EdgeGateway.Tls.Resolver

/-!
# One name, many spellings

Hosts of requests, domains of managed certificates, names in certificates and names in handshakes
are normalized in different places.  Where routing accepts a name, all of them agree.
-/

namespace EdgeGateway.Tls

open AsciiCase EdgeGateway.Configuration Results Routing

/-! ## The grammar of names -/

/-- A label has at most sixty-three letters, digits and hyphens, with no hyphen at its ends. -/
structure DnsLabel (label : List Char) : Prop where
  length : 1 ≤ label.length ∧ label.length ≤ 63
  characters : ∀ character ∈ label, character.isAlphanum = true ∨ character = '-'
  head : label.head? ≠ some '-'
  last : label.getLast? ≠ some '-'

/-- A name is made of labels with dots between them, has at most 253 bytes and is no address. -/
structure DnsName (name : String) : Prop where
  labels : ∃ labels, labels ≠ [] ∧ (∀ label ∈ labels, DnsLabel label) ∧
    name.toList = ['.'].intercalate labels
  bytes : 1 ≤ (Utf8.encode name.toList).length ∧ (Utf8.encode name.toList).length ≤ 253
  ascii : ∀ character ∈ name.toList, character.toNat < 0x80
  no_address : IpAddress.parse name = none

theorem dnsLabel_iff {label : List Char} : isInvalidLabel label = false ↔ DnsLabel label := by
  simp only [isInvalidLabel, Bool.or_eq_false_iff, Bool.not_eq_false', List.isEmpty_eq_false_iff,
    decide_eq_false_iff_not, not_lt, List.all_eq_true, Bool.or_eq_true, beq_iff_eq,
    beq_eq_false_iff_ne]
  constructor
  · intro checked
    obtain ⟨⟨⟨⟨nonempty, short⟩, head⟩, last⟩, characters⟩ := checked
    exact ⟨⟨List.length_pos_iff.mpr nonempty, short⟩, characters, head, last⟩
  · intro label
    exact ⟨⟨⟨⟨List.length_pos_iff.mp label.length.1, label.length.2⟩, label.head⟩, label.last⟩,
      label.characters⟩

theorem DnsLabel.undotted {label : List Char} (valid : DnsLabel label) : '.' ∉ label := by
  intro member
  rcases valid.characters '.' member with letter | hyphen
  · exact absurd letter (by decide)
  · exact absurd hyphen (by decide)

/-- The grammar describes the names that routing checks. -/
theorem validName_iff {name : String} : ValidName name.toList ↔ DnsName name := by
  constructor
  · intro valid
    refine ⟨⟨name.toList.splitOn '.', List.splitOn_ne_nil _ _, ?_, ?_⟩, ⟨?_, valid.short⟩,
      valid.ascii, ?_⟩
    · intro label member
      exact dnsLabel_iff.mp (valid.labels label member)
    · exact (List.intercalate_splitOn '.').symm
    · rw [Utf8.encode_ascii valid.ascii, List.length_map]
      exact List.length_pos_iff.mpr valid.nonempty
    · exact (congrArg IpAddress.parse String.ofList_toList).symm.trans valid.no_address
  · intro dns
    obtain ⟨labels, nonempty, each, joined⟩ := dns.labels
    have split : name.toList.splitOn '.' = labels := by
      rw [joined]
      exact List.splitOn_intercalate '.' (fun label member => (each label member).undotted) nonempty
    refine ⟨?_, dns.bytes.2, dns.ascii, ?_, ?_⟩
    · intro empty
      have bytes := dns.bytes.1
      rw [empty] at bytes
      exact absurd bytes (by decide)
    · exact (congrArg IpAddress.parse String.ofList_toList).trans dns.no_address
    · intro label member
      rw [split] at member
      exact dnsLabel_iff.mpr (each label member)

/-! ## Routing -/

theorem dropFinalDot_append (text : List Char) : dropFinalDot (text ++ ['.']) = text := by
  rw [dropFinalDot, if_pos List.getLast?_concat, List.dropLast_concat]

/-- Routing accepts the names of the grammar, with or without one dot at the end. -/
theorem normalizeDnsHost_isOk_iff (value : String) :
    (∃ host, normalizeDnsHost value = .ok host) ↔
      ∃ name, (value = name ∨ value = name ++ ".") ∧ DnsName name := by
  simp only [normalizeDnsHost_eq_ok, exists_and_left, exists_eq, and_true]
  constructor
  · intro valid
    have own : String.toList (String.ofList (dropFinalDot value.toList)) =
        dropFinalDot value.toList := String.toList_ofList
    rw [← own] at valid
    refine ⟨String.ofList (dropFinalDot value.toList), ?_, validName_iff.mp valid⟩
    rw [← String.toList_inj, ← String.toList_inj, String.toList_append, own]
    unfold dropFinalDot
    split_ifs with dotted
    · obtain ⟨front, split⟩ := List.getLast?_eq_some_iff.mp dotted
      rw [split, List.dropLast_concat]
      exact .inr rfl
    · exact .inl rfl
  · intro spelled
    obtain ⟨name, rfl | rfl, dns⟩ := spelled
    · have valid := validName_iff.mpr dns
      rwa [valid.dropFinalDot_eq]
    · have dropped : dropFinalDot (name ++ ".").toList = name.toList := by
        rw [String.toList_append]
        exact dropFinalDot_append name.toList
      rw [dropped]
      exact validName_iff.mpr dns

theorem length_encode_toLower (text : List Char) :
    (Utf8.encode (text.map Char.toLower)).length = (Utf8.encode text).length := by
  induction text with
  | nil => rfl
  | cons character rest ih =>
      have own : (String.utf8EncodeChar character.toLower).length =
          (String.utf8EncodeChar character).length := by
        by_cases ascii : character.toNat < 0x80
        · rw [Utf8.encodeChar_ascii ascii, Utf8.encodeChar_ascii ((ascii_toLower _).mpr ascii)]
          rfl
        · have same : character.toLower = character := by
            rw [← Char.toNat_inj, toNat_toLower, if_neg (by omega)]
          rw [same]
      rw [List.map_cons, Utf8.encode_cons, Utf8.encode_cons, List.length_append,
        List.length_append, own, ih]

/-- Both cases of a text are accepted or refused alike. -/
theorem normalizeDnsHost_case (text : List Char) :
    normalizeDnsHost (String.ofList (text.map Char.toLower)) =
      normalizeDnsHost (String.ofList text) := by
  rw [normalizeDnsHost, normalizeDnsHost, String.toList_ofList, String.toList_ofList,
    dropFinalDot_toLower]
  generalize dropFinalDot text = name
  have foreign : (name.map Char.toLower).any (fun character => 0x80 ≤ character.toNat) =
      name.any fun character => 0x80 ≤ character.toNat := by
    rw [List.any_map]
    congr 1
    funext character
    have ascii := ascii_toLower character
    simp only [Function.comp_apply, decide_eq_decide]
    omega
  have labels : ((name.map Char.toLower).splitOn '.').any isInvalidLabel =
      (name.splitOn '.').any isInvalidLabel := by
    rw [splitOn_toLower (by decide), List.any_map]
    congr 1
    funext label
    exact isInvalidLabel_toLower label
  simp only [List.map_eq_nil_iff, length_encode_toLower, foreign, IpAddress.parse_toLower, labels,
    map_toLower_toLower]

theorem normalizeDnsHost_sameCase {value other : String}
    (same : value.toList.map Char.toLower = other.toList.map Char.toLower) :
    normalizeDnsHost value = normalizeDnsHost other := by
  have left := normalizeDnsHost_case value.toList
  have right := normalizeDnsHost_case other.toList
  rw [same, right, String.ofList_toList, String.ofList_toList] at left
  exact left.symm

/-- One dot at the end makes no difference. -/
theorem normalizeDnsHost_finalDot {value : String} (undotted : value.toList.getLast? ≠ some '.') :
    normalizeDnsHost (value ++ ".") = normalizeDnsHost value := by
  have dotted : value ++ "." = String.ofList (value.toList ++ ['.']) := by
    rw [← String.toList_inj]
    simp
  rw [dotted, normalizeDnsHost_dot undotted, String.ofList_toList]

/-! ## Domains, certificates and handshakes -/

variable {name : List Char}

/-- The characters of a name. -/
theorem character_of_validName (valid : ValidName name) {character : Char}
    (member : character ∈ name) :
    character.isAlphanum = true ∨ character = '-' ∨ character = '.' := by
  by_cases dot : character = '.'
  · exact .inr (.inr dot)
  · obtain ⟨label, part, inside⟩ := Splitting.exists_part_of_mem member dot
    have checked := dnsLabel_iff.mp (valid.labels label part)
    exact (checked.characters character inside).imp_right .inl

theorem getLast_of_validName (valid : ValidName name) : name.getLast? ≠ some '.' := by
  intro last
  have kept := valid.dropFinalDot_eq
  obtain ⟨front, rfl⟩ := List.getLast?_eq_some_iff.mp last
  rw [dropFinalDot_append] at kept
  exact absurd (congrArg List.length kept) (by simp)

theorem dropWhile_of_head {text : List Char} {dropped : Char → Bool}
    (kept : ∀ first, text.head? = some first → dropped first = false) :
    text.dropWhile dropped = text := by
  cases text with
  | nil => rfl
  | cons first rest => exact List.dropWhile_cons_of_neg (by simp [kept first rfl])

/-- A name without a dot at its end stays when the dots at the end are dropped. -/
theorem dropDots (undotted : name.getLast? ≠ some '.') (dots : List Char)
    (all_dots : ∀ dot ∈ dots, dot = '.') :
    ((name ++ dots).reverse.dropWhile (· = '.')).reverse = name := by
  rw [List.reverse_append, List.dropWhile_append_of_pos]
  · rw [dropWhile_of_head, List.reverse_reverse]
    intro last found
    rw [List.head?_reverse] at found
    rw [decide_eq_false_iff_not]
    rintro rfl
    exact undotted found
  · intro dot member
    simpa using all_dots dot (List.mem_reverse.mp member)

/-- Accepted texts are their names, with at most one dot behind them. -/
theorem text_of_validName {value : String} :
    ∃ dots, value.toList = dropFinalDot value.toList ++ dots ∧ ∀ dot ∈ dots, dot = '.' := by
  unfold dropFinalDot
  split_ifs with dotted
  · obtain ⟨front, split⟩ := List.getLast?_eq_some_iff.mp dotted
    rw [split, List.dropLast_concat]
    exact ⟨['.'], rfl, by simp⟩
  · exact ⟨[], (List.append_nil _).symm, by simp⟩

theorem normalizeSan_of_host {value host : String} (routed : normalizeDnsHost value = .ok host) :
    normalizeSan value = host := by
  obtain ⟨valid, rfl⟩ := normalizeDnsHost_eq_ok.mp routed
  obtain ⟨dots, split, all_dots⟩ := @text_of_validName value
  have dropped := dropDots (getLast_of_validName valid) dots all_dots
  rw [← split] at dropped
  rw [normalizeSan, dropped]

theorem not_whitespace_of_validName (valid : ValidName name) {character : Char}
    (member : character ∈ name) : Text.isWhitespace character = false := by
  rcases character_of_validName valid member with letter | rfl | rfl
  · have range := (isAlphanum_iff character).mp letter
    simp only [Text.isWhitespace, Bool.or_eq_false_iff, Bool.and_eq_false_iff,
      decide_eq_false_iff_not, beq_eq_false_iff_ne]
    omega
  · rfl
  · rfl

theorem trim_of_host {value host : String} (routed : normalizeDnsHost value = .ok host) :
    Text.trim value.toList = value.toList := by
  obtain ⟨valid, _⟩ := normalizeDnsHost_eq_ok.mp routed
  obtain ⟨dots, split, all_dots⟩ := @text_of_validName value
  have solid : ∀ character ∈ value.toList, Text.isWhitespace character = false := by
    intro character member
    rw [split, List.mem_append] at member
    rcases member with inside | behind
    · exact not_whitespace_of_validName valid inside
    · rw [all_dots character behind]
      rfl
  have front : value.toList.dropWhile Text.isWhitespace = value.toList :=
    dropWhile_of_head fun first found => solid first (List.mem_of_head? found)
  rw [Text.trim, front, dropWhile_of_head, List.reverse_reverse]
  intro last found
  rw [List.head?_reverse] at found
  exact solid last (List.mem_of_getLast? found)

/-- The checks of a managed domain hold for every name of routing. -/
theorem normalizeDomain_of_host {value host : String} (routed : normalizeDnsHost value = .ok host) :
    normalizeDomain value = .ok host := by
  have trimmed := trim_of_host routed
  obtain ⟨valid, rfl⟩ := normalizeDnsHost_eq_ok.mp routed
  obtain ⟨dots, split, all_dots⟩ := @text_of_validName value
  have dropped := dropDots (getLast_of_validName valid) dots all_dots
  rw [← split] at dropped
  have lower := validName_toLower.mpr valid
  have unstarred : ¬ ['*', '.'] <+: (dropFinalDot value.toList).map Char.toLower := by
    intro starred
    have star : '*' ∈ (dropFinalDot value.toList).map Char.toLower :=
      starred.subset List.mem_cons_self
    exact absurd (character_of_validName lower star) (by decide)
  have foreign : ¬ (253 < (Utf8.encode ((dropFinalDot value.toList).map Char.toLower)).length ∨
      ((dropFinalDot value.toList).map Char.toLower).any
        (fun character => 0x80 ≤ character.toNat) = true) := by
    rw [not_or, not_lt, Bool.not_eq_true, List.any_eq_false]
    refine ⟨lower.short, fun character member => ?_⟩
    simpa using lower.ascii character member
  have labels : ((((dropFinalDot value.toList).map Char.toLower).splitOn '.').forM fun label => do
      ensure (label ≠ [] ∧ label.length ≤ 63)
        "DNS labels must contain between 1 and 63 characters"
      ensure (label.head? ≠ some '-' ∧ label.getLast? ≠ some '-')
        "DNS labels must not start or end with '-'"
      ensure (label.all (fun character => character.isAlphanum || character == '-') = true)
        "DNS labels may contain only ASCII letters, digits and '-'") = .ok () := by
    rw [forM_eq_ok]
    intro label member
    have checked := dnsLabel_iff.mp (lower.labels label member)
    simp only [bind_eq_ok, ensure_eq_ok, exists_const]
    refine ⟨⟨List.length_pos_iff.mp checked.length.1, checked.length.2⟩,
      ⟨checked.head, checked.last⟩, ?_⟩
    simpa [List.all_eq_true] using checked.characters
  rw [normalizeDomain]
  simp only [trimmed, dropped]
  rw [if_neg lower.nonempty, if_neg unstarred, if_neg foreign, lower.no_address,
    if_neg (by decide), labels]
  rfl

/-- Routing accepts exactly the names of the grammar, its result does not depend on the case of
letters or on one dot at the end, and a managed domain, a name in a certificate and a name in a
handshake that routing accepts have the same result. -/
theorem host_spellings_agree :
    (∀ value, (∃ host, normalizeDnsHost value = .ok host) ↔
      ∃ name, (value = name ∨ value = name ++ ".") ∧ DnsName name) ∧
    (∀ value host, normalizeDnsHost value = .ok host → normalizeDnsHost host = .ok host) ∧
    (∀ value other, value.toList.map Char.toLower = other.toList.map Char.toLower →
      normalizeDnsHost value = normalizeDnsHost other) ∧
    (∀ value, value.toList.getLast? ≠ some '.' →
      normalizeDnsHost (value ++ ".") = normalizeDnsHost value) ∧
    ∀ value host, normalizeDnsHost value = .ok host →
      normalizeDomain value = .ok host ∧ lookupKey value = host ∧ normalizeSan value = host := by
  refine ⟨normalizeDnsHost_isOk_iff, fun _ _ => normalizeDnsHost_idem,
    fun _ _ => normalizeDnsHost_sameCase, fun _ => normalizeDnsHost_finalDot, ?_⟩
  intro value host routed
  exact ⟨normalizeDomain_of_host routed, normalizeSan_of_host routed, normalizeSan_of_host routed⟩

end EdgeGateway.Tls
