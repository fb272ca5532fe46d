import EdgeGateway.Routing.Policy

/-!
# Hosts and authorities

A DNS name has one canonical form, and its case, one dot at its end and the port of the secure
protocol change neither the form nor the port that an authority stands for.
-/

namespace EdgeGateway.Routing

open AsciiCase Http Results

/-! ## Names -/

/-- What a name without its final dot has to meet. -/
structure ValidName (name : List Char) : Prop where
  nonempty : name ≠ []
  short : (Utf8.encode name).length ≤ 253
  ascii : ∀ character ∈ name, character.toNat < 0x80
  no_address : IpAddress.parse (String.ofList name) = none
  labels : ∀ label ∈ name.splitOn '.', isInvalidLabel label = false

/-- A host is the lower case of a valid name. -/
theorem normalizeDnsHost_eq_ok {value host : String} :
    normalizeDnsHost value = .ok host ↔ ValidName (dropFinalDot value.toList) ∧
      host = String.ofList ((dropFinalDot value.toList).map Char.toLower) := by
  rw [normalizeDnsHost]
  generalize dropFinalDot value.toList = name
  constructor
  · intro normalized
    split_ifs at normalized with malformed literal label
    rw [not_or, not_or, not_lt, Bool.not_eq_true, List.any_eq_false] at malformed
    rw [Bool.not_eq_true, List.any_eq_false] at label
    rw [Option.not_isSome_iff_eq_none] at literal
    obtain ⟨nonempty, short, ascii⟩ := malformed
    refine ⟨⟨nonempty, short, ?_, literal, ?_⟩, (Except.ok.inj normalized).symm⟩
    · intro character member
      simpa using ascii character member
    · intro part member
      simpa using label part member
  · rintro ⟨valid, rfl⟩
    have ascii : name.any (fun character => 0x80 ≤ character.toNat) = false := by
      rw [List.any_eq_false]
      intro character member
      simpa using valid.ascii character member
    have labels : (name.splitOn '.').any isInvalidLabel = false := by
      rw [List.any_eq_false]
      intro label member
      simp [valid.labels label member]
    rw [if_neg, valid.no_address, if_neg (by decide), labels, if_neg (by decide)]
    rw [ascii]
    simp [valid.nonempty, valid.short]

theorem isInvalidLabel_toLower (label : List Char) :
    isInvalidLabel (label.map Char.toLower) = isInvalidLabel label := by
  have hyphen (character : Char) :
      (character.toLower == '-') = (character == '-') := by
    rw [Bool.eq_iff_iff, beq_iff_eq, beq_iff_eq, toLower_eq_iff (by decide)]
  have ends (last : Option Char) : (last.map Char.toLower == some '-') = (last == some '-') := by
    cases last with
    | none => rfl
    | some character =>
        simp only [Option.map_some, Option.some_beq_some]
        exact hyphen character
  simp only [isInvalidLabel, List.isEmpty_map, List.length_map, List.head?_map, List.getLast?_map,
    ends, List.all_map, Function.comp_def, isAlphanum_toLower, hyphen]

/-- Both cases of a name are valid alike. -/
theorem validName_toLower {name : List Char} :
    ValidName (name.map Char.toLower) ↔ ValidName name := by
  have ascii : (∀ character ∈ name.map Char.toLower, character.toNat < 0x80) ↔
      ∀ character ∈ name, character.toNat < 0x80 := by
    simp only [List.forall_mem_map, ascii_toLower]
  have same_length (plain : ∀ character ∈ name, character.toNat < 0x80) :
      (Utf8.encode (name.map Char.toLower)).length = (Utf8.encode name).length := by
    rw [Utf8.encode_ascii (ascii.mpr plain), Utf8.encode_ascii plain, List.length_map,
      List.length_map, List.length_map]
  have labels : (∀ label ∈ (name.map Char.toLower).splitOn '.', isInvalidLabel label = false) ↔
      ∀ label ∈ name.splitOn '.', isInvalidLabel label = false := by
    rw [splitOn_toLower (by decide)]
    simp only [List.forall_mem_map, isInvalidLabel_toLower]
  constructor
  · intro valid
    have plain := ascii.mp valid.ascii
    refine ⟨?_, same_length plain ▸ valid.short, plain, ?_, labels.mp valid.labels⟩
    · exact fun empty => valid.nonempty (List.map_eq_nil_iff.mpr empty)
    · exact (IpAddress.parse_toLower name).symm.trans valid.no_address
  · intro valid
    refine ⟨?_, (same_length valid.ascii).symm ▸ valid.short, ascii.mpr valid.ascii, ?_,
      labels.mpr valid.labels⟩
    · exact fun empty => valid.nonempty (List.map_eq_nil_iff.mp empty)
    · exact (IpAddress.parse_toLower name).trans valid.no_address

/-- A valid name has no final dot. -/
theorem ValidName.dropFinalDot_eq {name : List Char} (valid : ValidName name) :
    dropFinalDot name = name := by
  apply if_neg
  intro last
  obtain ⟨front, rfl⟩ := List.getLast?_eq_some_iff.mp last
  have empty : [] ∈ (front ++ ['.']).splitOn '.' := by
    rw [List.splitOn_append_cons_self]
    exact List.mem_append_right _ List.mem_cons_self
  exact absurd (valid.labels [] empty) (by decide)

theorem dropFinalDot_toLower (name : List Char) :
    dropFinalDot (name.map Char.toLower) = (dropFinalDot name).map Char.toLower := by
  have last : (name.map Char.toLower).getLast? = some '.' ↔ name.getLast? = some '.' := by
    rw [List.getLast?_map]
    cases name.getLast? with
    | none => simp
    | some character =>
        rw [Option.map_some, Option.some_inj, Option.some_inj, toLower_eq_iff (by decide)]
  rw [dropFinalDot, dropFinalDot]
  by_cases dotted : name.getLast? = some '.'
  · rw [if_pos (last.mpr dotted), if_pos dotted, List.map_dropLast]
  · rw [if_neg (fun found => dotted (last.mp found)), if_neg dotted]

/-- Both cases of a name have the same host. -/
theorem normalizeDnsHost_toLower {text : List Char} {host : String} :
    normalizeDnsHost (String.ofList (text.map Char.toLower)) = .ok host ↔
      normalizeDnsHost (String.ofList text) = .ok host := by
  rw [normalizeDnsHost_eq_ok, normalizeDnsHost_eq_ok, String.toList_ofList, String.toList_ofList,
    dropFinalDot_toLower, validName_toLower, map_toLower_toLower]

/-- A host is its own host. -/
theorem normalizeDnsHost_idem {value host : String}
    (normalized : normalizeDnsHost value = .ok host) :
    normalizeDnsHost host = .ok host := by
  obtain ⟨valid, rfl⟩ := normalizeDnsHost_eq_ok.mp normalized
  rw [normalizeDnsHost_eq_ok, String.toList_ofList, (validName_toLower.mpr valid).dropFinalDot_eq]
  exact ⟨validName_toLower.mpr valid, by rw [map_toLower_toLower]⟩

/-! ## Authorities -/

/-- What stands before the port of an authority. -/
def hostPart (authority : String) : String :=
  match Text.splitOnce ':' authority.toList with
  | some (host, _) => String.ofList host
  | none => authority

/-- The port that an authority names. -/
def portPart (authority : String) : Option Nat :=
  (Text.splitOnce ':' authority.toList).bind fun parts => Text.readDecimal (2 ^ 16) 0 parts.2

/-- The host and the port that an accepted authority stands for; an omitted port is that of the
secure protocol. -/
def effective (authority : String) : Option (String × Nat) :=
  (normalizeAuthority authority).toOption.map fun found => (found.1, found.2.getD 443)

theorem normalizeAuthority_of_none {authority : String}
    (unsplit : Text.splitOnce ':' authority.toList = none) :
    normalizeAuthority authority = (normalizeDnsHost authority).map fun host => (host, none) := by
  rw [normalizeAuthority, unsplit]
  cases normalizeDnsHost authority with
  | error reason => rfl
  | ok host => rfl

theorem normalizeAuthority_of_some {authority : String} {name digits : List Char}
    (split : Text.splitOnce ':' authority.toList = some (name, digits))
    {found : String × Option Nat} :
    normalizeAuthority authority = .ok found ↔
      (digits ≠ [] ∧ digits.all Char.isDigit = true) ∧
        ∃ port, Text.readDecimal (2 ^ 16) 0 digits = some port ∧ port ≠ 0 ∧
          normalizeDnsHost (String.ofList name) = .ok found.1 ∧ found.2 = some port := by
  obtain ⟨host, found_port⟩ := found
  rw [normalizeAuthority, split]
  dsimp only
  by_cases malformed : digits = [] ∨ ¬digits.all Char.isDigit = true
  · rw [if_pos malformed]
    constructor
    · intro found
      cases found
    · rintro ⟨⟨nonempty, decimal⟩, _⟩
      rcases malformed with empty | other
      · exact absurd empty nonempty
      · exact absurd decimal other
  · rw [if_neg malformed]
    rw [not_or, not_not] at malformed
    cases Text.readDecimal (2 ^ 16) 0 digits with
    | none => simp
    | some port =>
        constructor
        · intro accepted
          by_cases zero : port = 0
          · simp only [if_pos zero] at accepted
            cases accepted
          · simp only [if_neg zero, bind_eq_ok] at accepted
            obtain ⟨own, normalized, same⟩ := accepted
            cases same
            exact ⟨malformed, port, rfl, zero, normalized, rfl⟩
        · rintro ⟨_, own, same, nonzero, normalized, rfl⟩
          cases same
          simp only [if_neg nonzero, bind_eq_ok]
          exact ⟨host, normalized, rfl⟩

/-- An accepted authority has its host and its port. -/
theorem normalizeAuthority_parts {authority : String} {found : String × Option Nat}
    (accepted : normalizeAuthority authority = .ok found) :
    normalizeDnsHost (hostPart authority) = .ok found.1 ∧ portPart authority = found.2 := by
  rw [hostPart, portPart]
  cases split : Text.splitOnce ':' authority.toList with
  | none =>
      rw [normalizeAuthority_of_none split] at accepted
      obtain ⟨host, normalized, rfl⟩ := map_eq_ok.mp accepted
      exact ⟨normalized, rfl⟩
  | some parts =>
      obtain ⟨_, port, read, _, normalized, named⟩ := (normalizeAuthority_of_some split).mp accepted
      exact ⟨normalized, read.trans named.symm⟩

/-! ## Authorities that stand for the same -/

/-- Two authorities that differ in the case of letters, in one dot at the end of the host or in an
omitted port of the secure protocol. -/
inductive SameAuthority : String → String → Prop
  | case {authority other : String}
      (same : authority.toList.map Char.toLower = other.toList.map Char.toLower) :
      SameAuthority authority other
  | dot {host rest : List Char} (plain : ':' ∉ host) (undotted : host.getLast? ≠ some '.')
      (continued : rest = [] ∨ rest.head? = some ':') :
      SameAuthority (String.ofList (host ++ rest)) (String.ofList (host ++ '.' :: rest))
  | port {host : String} (plain : ':' ∉ host.toList) : SameAuthority host (host ++ ":443")
  | symm {authority other : String} (same : SameAuthority authority other) :
      SameAuthority other authority
  | trans {authority middle other : String} (first : SameAuthority authority middle)
      (second : SameAuthority middle other) : SameAuthority authority other

theorem toOption_eq_of_ok {left right : Except String (String × Option Nat)}
    (same : ∀ found, left = .ok found ↔ right = .ok found) : left.toOption = right.toOption := by
  cases left with
  | ok found => rw [(same found).mp rfl]
  | error reason =>
      cases right with
      | ok found => cases (same found).mpr rfl
      | error other => rfl

/-- Digits are what they are in lower case. -/
theorem digits_eq_of_toLower {digits other : List Char} (decimal : digits.all Char.isDigit = true)
    (same : digits.map Char.toLower = other.map Char.toLower) : digits = other := by
  induction digits generalizing other with
  | nil => exact (List.map_eq_nil_iff.mp same.symm).symm
  | cons digit digits ih =>
      cases other with
      | nil => cases same
      | cons first other =>
          obtain ⟨first_same, rest_same⟩ := List.cons.inj same
          rw [List.all_cons, Bool.and_eq_true] at decimal
          rw [eq_of_toLower_digit decimal.1 first_same, ih decimal.2 rest_same]

theorem normalizeDnsHost_congr {text other : List Char} {host : String}
    (same : text.map Char.toLower = other.map Char.toLower) :
    normalizeDnsHost (String.ofList text) = .ok host ↔
      normalizeDnsHost (String.ofList other) = .ok host := by
  rw [← normalizeDnsHost_toLower, same, normalizeDnsHost_toLower]

/-- An authority in another case is accepted alike. -/
theorem normalizeAuthority_of_case {authority other : String} {found : String × Option Nat}
    (same : authority.toList.map Char.toLower = other.toList.map Char.toLower)
    (accepted : normalizeAuthority authority = .ok found) :
    normalizeAuthority other = .ok found := by
  have splits := @splitOnce_toLower ':' (by decide) authority.toList
  rw [same, splitOnce_toLower (by decide)] at splits
  cases split : Text.splitOnce ':' authority.toList with
  | none =>
      rw [split, Option.map_none, Option.map_eq_none_iff] at splits
      rw [normalizeAuthority_of_none split] at accepted
      rw [normalizeAuthority_of_none splits]
      obtain ⟨host, normalized, rfl⟩ := map_eq_ok.mp accepted
      rw [← String.ofList_toList (s := authority), normalizeDnsHost_congr same,
        String.ofList_toList] at normalized
      exact map_eq_ok.mpr ⟨host, normalized, rfl⟩
  | some parts =>
      obtain ⟨name, digits⟩ := parts
      rw [split, Option.map_some, Option.map_eq_some_iff] at splits
      obtain ⟨⟨other_name, other_digits⟩, other_split, parts_same⟩ := splits
      obtain ⟨name_same, digits_same⟩ := Prod.mk.inj parts_same
      obtain ⟨decimal, port, read, nonzero, normalized, named⟩ :=
        (normalizeAuthority_of_some split).mp accepted
      have digits_eq := digits_eq_of_toLower decimal.2 digits_same.symm
      subst digits_eq
      exact (normalizeAuthority_of_some other_split).mpr
        ⟨decimal, port, read, nonzero, (normalizeDnsHost_congr name_same).mpr normalized, named⟩

theorem normalizeDnsHost_dot {host : List Char} (undotted : host.getLast? ≠ some '.') :
    normalizeDnsHost (String.ofList (host ++ ['.'])) = normalizeDnsHost (String.ofList host) := by
  have dotted : dropFinalDot (host ++ ['.']) = dropFinalDot host := by
    rw [dropFinalDot, dropFinalDot, if_pos List.getLast?_concat, if_neg undotted,
      List.dropLast_concat]
  rw [normalizeDnsHost, normalizeDnsHost, String.toList_ofList, String.toList_ofList, dotted]

/-- One dot at the end of the host changes nothing. -/
theorem normalizeAuthority_dot {host rest : List Char} (plain : ':' ∉ host)
    (undotted : host.getLast? ≠ some '.') (continued : rest = [] ∨ rest.head? = some ':')
    (found : String × Option Nat) :
    normalizeAuthority (String.ofList (host ++ rest)) = .ok found ↔
      normalizeAuthority (String.ofList (host ++ '.' :: rest)) = .ok found := by
  have dotted_plain : ':' ∉ host ++ ['.'] := by simp [plain]
  rcases continued with rfl | first
  · rw [List.append_nil, normalizeAuthority_of_none, normalizeAuthority_of_none,
      normalizeDnsHost_dot undotted]
    · rwa [String.toList_ofList, Text.splitOnce_eq_none]
    · rwa [String.toList_ofList, Text.splitOnce_eq_none]
  · obtain ⟨digits, rfl⟩ := List.head?_eq_some_iff.mp first
    have split : Text.splitOnce ':' (String.ofList (host ++ ':' :: digits)).toList =
        some (host, digits) := by
      rw [String.toList_ofList, Text.splitOnce_append plain]
    have dotted_split : Text.splitOnce ':' (String.ofList (host ++ '.' :: ':' :: digits)).toList =
        some (host ++ ['.'], digits) := by
      rw [String.toList_ofList, List.append_cons, Text.splitOnce_append dotted_plain]
    rw [normalizeAuthority_of_some split, normalizeAuthority_of_some dotted_split,
      normalizeDnsHost_dot undotted]

/-- The port of the secure protocol stands for an omitted one. -/
theorem effective_port {host : String} (plain : ':' ∉ host.toList) :
    effective host = effective (host ++ ":443") := by
  have split : Text.splitOnce ':' (host ++ ":443").toList = some (host.toList, "443".toList) := by
    rw [String.toList_append]
    exact Text.splitOnce_append plain
  have accepted (found : String × Option Nat) : normalizeAuthority (host ++ ":443") = .ok found ↔
      normalizeDnsHost host = .ok found.1 ∧ found.2 = some 443 := by
    have read : Text.readDecimal (2 ^ 16) 0 "443".toList = some 443 := by decide
    rw [normalizeAuthority_of_some split, read, String.ofList_toList]
    constructor
    · rintro ⟨_, port, same, _, normalized, named⟩
      cases same
      exact ⟨normalized, named⟩
    · rintro ⟨normalized, named⟩
      exact ⟨by decide, 443, rfl, by decide, normalized, named⟩
  rw [effective, effective, normalizeAuthority_of_none (Text.splitOnce_eq_none.mpr plain)]
  cases normalized : normalizeDnsHost host with
  | ok name =>
      rw [(accepted (name, some 443)).mpr ⟨normalized, rfl⟩]
      rfl
  | error reason =>
      cases other : normalizeAuthority (host ++ ":443") with
      | error other_reason => rfl
      | ok found =>
          have named := ((accepted found).mp other).1
          rw [normalized] at named
          cases named

/-- Authorities that differ in these ways stand for the same. -/
theorem SameAuthority.effective_eq {authority other : String}
    (same : SameAuthority authority other) :
    effective authority = effective other := by
  induction same with
  | case same =>
      rw [effective, effective, toOption_eq_of_ok fun found =>
        ⟨normalizeAuthority_of_case same, normalizeAuthority_of_case same.symm⟩]
  | dot plain undotted continued =>
      rw [effective, effective,
        toOption_eq_of_ok (normalizeAuthority_dot plain undotted continued)]
  | port plain => exact effective_port plain
  | symm _ ih => exact ih.symm
  | trans _ _ first second => exact first.trans second

end EdgeGateway.Routing
