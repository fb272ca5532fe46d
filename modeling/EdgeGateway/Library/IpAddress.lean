import EdgeGateway.Library.AsciiCase

/-!
# Internet addresses and their text

Addresses are their bits.  The reader accepts dotted and colon-separated text and the writer prints
the shortest colon-separated form; both work on ASCII characters only.
-/

namespace IpAddress

/-- An address of either family. -/
inductive IpAddr
  | v4 (bits : BitVec 32)
  | v6 (bits : BitVec 128)
deriving DecidableEq, Repr

/-- The addresses of the machine itself. -/
def IpAddr.isLoopback : IpAddr → Bool
  | .v4 bits => bits >>> 24 == 127#32
  | .v6 bits => bits == 1#128

/-! ## Reading -/

/-- The value of a digit in a base of at most sixteen. -/
def toDigit (radix : Nat) (character : Char) : Option Nat :=
  let value :=
    if '0' ≤ character ∧ character ≤ '9' then some (character.toNat - '0'.toNat)
    else if 'a' ≤ character ∧ character ≤ 'f' then some (character.toNat - 'a'.toNat + 10)
    else if 'A' ≤ character ∧ character ≤ 'F' then some (character.toNat - 'A'.toNat + 10)
    else none
  value.filter (· < radix)

/-- Read digits while they last; more than `maximum` of them are an error. -/
def readDigits (radix maximum value count : Nat) : List Char → Option (Nat × Nat × List Char)
  | [] => some (value, count, [])
  | character :: rest =>
      match toDigit radix character with
      | some digit =>
          if maximum < count + 1 then none
          else readDigits radix maximum (value * radix + digit) (count + 1) rest
      | none => some (value, count, character :: rest)

/-- Read a number below `bound` off the front. -/
def readNumber (radix maximum : Nat) (allowZeroPrefix : Bool) (bound : Nat) (input : List Char) :
    Option (Nat × List Char) := do
  let (value, count, rest) ← readDigits radix maximum 0 0 input
  if count = 0 then none
  else if !allowZeroPrefix && input.head? == some '0' && decide (1 < count) then none
  else if value < bound then some (value, rest)
  else none

/-- Read a separator before every item but the first. -/
def readSeparator {Item : Type} (separator : Char) (index : Nat)
    (item : List Char → Option (Item × List Char)) (input : List Char) :
    Option (Item × List Char) :=
  if 0 < index then
    match input with
    | [] => none
    | character :: rest => if character = separator then item rest else none
  else
    item input

/-- Read one octet of a dotted address. -/
def readOctet (index : Nat) : List Char → Option (Nat × List Char) :=
  readSeparator '.' index (readNumber 10 3 false 256)

/-- Read a dotted address as its two sixteen-bit halves. -/
def readIpv4Addr (input : List Char) : Option ((Nat × Nat) × List Char) := do
  let (first, input) ← readOctet 0 input
  let (second, input) ← readOctet 1 input
  let (third, input) ← readOctet 2 input
  let (fourth, input) ← readOctet 3 input
  some ((first * 256 + second, third * 256 + fourth), input)

/-- Read up to `slots` colon-separated groups, the last two of which may be a dotted address. -/
def readGroups (index : Nat) : Nat → List Char → List Nat × Bool × List Char
  | 0, input => ([], false, input)
  | slots + 1, input =>
      match (if 0 < slots then readSeparator ':' index readIpv4Addr input else none) with
      | some ((high, low), rest) => ([high, low], true, rest)
      | none =>
          match readSeparator ':' index (readNumber 16 4 true 65536) input with
          | some (group, rest) =>
              let (groups, embedded, rest) := readGroups (index + 1) slots rest
              (group :: groups, embedded, rest)
          | none => ([], false, input)

/-- Read a colon-separated address as its eight groups. -/
def readIpv6Addr (input : List Char) : Option (List Nat × List Char) :=
  let (head, embedded, rest) := readGroups 0 8 input
  if head.length = 8 then some (head, rest)
  else if embedded then none
  else
    match rest with
    | ':' :: ':' :: rest =>
        let (tail, _, rest) := readGroups 0 (8 - (head.length + 1)) rest
        some (head ++ List.replicate (8 - head.length - tail.length) 0 ++ tail, rest)
    | _ => none

/-- The number that a list of sixteen-bit groups writes, most significant group first. -/
def ofGroups (groups : List Nat) : Nat :=
  groups.foldl (fun number group => number * 65536 + group) 0

/-- Read an address that makes up the whole text. -/
def parse (text : String) : Option IpAddr :=
  match readIpv4Addr text.toList with
  | some ((high, low), rest) =>
      if rest = [] then some (.v4 (BitVec.ofNat 32 (ofGroups [high, low]))) else none
  | none =>
      match readIpv6Addr text.toList with
      | some (groups, rest) =>
          if rest = [] then some (.v6 (BitVec.ofNat 128 (ofGroups groups))) else none
      | none => none

/-! ## Writing -/

/-- The embedded address of a mapped one. -/
def toIpv4Mapped (bits : BitVec 128) : Option (BitVec 32) :=
  if bits >>> 32 = 0xFFFF#128 then some (bits.setWidth 32) else none

/-- The dotted text of an address. -/
def displayIpv4 (bits : BitVec 32) : List Char :=
  let octet (shift : Nat) := Nat.toDigits 10 ((bits >>> shift).toNat % 256)
  octet 24 ++ '.' :: octet 16 ++ '.' :: octet 8 ++ '.' :: octet 0

/-- The groups of an address, most significant first. -/
def segments (bits : BitVec 128) : List Nat :=
  [112, 96, 80, 64, 48, 32, 16, 0].map fun shift => (bits >>> shift).toNat % 65536

/-- A run of zero groups. -/
structure Span where
  start : Nat
  length : Nat
deriving DecidableEq, Repr

/-- The first longest run of zero groups, scanning from position `index`. -/
def longestZeroes (longest current : Span) (index : Nat) : List Nat → Span
  | [] => longest
  | segment :: rest =>
      if segment = 0 then
        let current : Span :=
          ⟨if current.length = 0 then index else current.start, current.length + 1⟩
        longestZeroes (if longest.length < current.length then current else longest) current
          (index + 1) rest
      else
        longestZeroes longest ⟨0, 0⟩ (index + 1) rest

/-- Colon-separated hexadecimal groups. -/
def displayGroups : List Nat → List Char
  | [] => []
  | [segment] => Nat.toDigits 16 segment
  | segment :: rest => Nat.toDigits 16 segment ++ ':' :: displayGroups rest

/-- The colon-separated text of an address. -/
def displayIpv6 (bits : BitVec 128) : List Char :=
  match toIpv4Mapped bits with
  | some mapped => "::ffff:".toList ++ displayIpv4 mapped
  | none =>
      let zeroes := longestZeroes ⟨0, 0⟩ ⟨0, 0⟩ 0 (segments bits)
      if 1 < zeroes.length then
        displayGroups ((segments bits).take zeroes.start) ++ ':' :: ':' ::
          displayGroups ((segments bits).drop (zeroes.start + zeroes.length))
      else
        displayGroups (segments bits)

/-- The text of an address. -/
def display : IpAddr → String
  | .v4 bits => String.ofList (displayIpv4 bits)
  | .v6 bits => String.ofList (displayIpv6 bits)

example : (parse "::ffff:192.0.2.7").map display = some "::ffff:192.0.2.7" := by decide +kernel

example : (parse "2001:db8:0:0:1:0:0:1").map display = some "2001:db8::1:0:0:1" := by
  decide +kernel

/-! ## The characters of addresses -/

/-- Printable ASCII characters other than the blank. -/
def Graphic (character : Char) : Prop := 0x20 < character.toNat ∧ character.toNat < 0x7F

instance (character : Char) : Decidable (Graphic character) :=
  inferInstanceAs (Decidable (_ ∧ _))

theorem graphic_ite {condition : Prop} [Decidable condition] {left right : Char}
    (left_graphic : Graphic left) (right_graphic : Graphic right) :
    Graphic (if condition then left else right) := by
  split
  · exact left_graphic
  · exact right_graphic

theorem graphic_digitChar (digit : Nat) : Graphic (Nat.digitChar digit) := by
  rw [Nat.digitChar]
  repeat apply graphic_ite (by decide)
  decide

theorem graphic_of_mem_toDigits {radix : Nat} (large : 1 < radix) (number : Nat) {character : Char}
    (member : character ∈ Nat.toDigits radix number) : Graphic character := by
  induction number using Nat.strongRecOn with
  | ind number ih =>
      rw [Nat.toDigits_eq_if large] at member
      split_ifs at member with small
      · rw [List.mem_singleton.mp member]
        exact graphic_digitChar number
      · rcases List.mem_append.mp member with member | member
        · exact ih _ (Nat.div_lt_self (by omega) large) member
        · rw [List.mem_singleton.mp member]
          exact graphic_digitChar _

theorem graphic_of_mem_displayIpv4 {bits : BitVec 32} {character : Char}
    (member : character ∈ displayIpv4 bits) : Graphic character := by
  have octet {number : Nat} (member : character ∈ Nat.toDigits 10 number) : Graphic character :=
    graphic_of_mem_toDigits (by decide) number member
  simp only [displayIpv4, List.cons_append, List.append_assoc, List.mem_append,
    List.mem_cons] at member
  rcases member with member | rfl | member | rfl | member | rfl | member
  · exact octet member
  · decide
  · exact octet member
  · decide
  · exact octet member
  · decide
  · exact octet member

theorem graphic_of_mem_displayGroups (groups : List Nat) {character : Char}
    (member : character ∈ displayGroups groups) : Graphic character := by
  induction groups using displayGroups.induct with
  | case1 => cases member
  | case2 segment => exact graphic_of_mem_toDigits (by decide) segment member
  | case3 segment rest nonempty ih =>
      rw [displayGroups] at member
      · rcases List.mem_append.mp member with member | member
        · exact graphic_of_mem_toDigits (by decide) segment member
        · rcases List.mem_cons.mp member with rfl | member
          · decide
          · exact ih member
      · exact nonempty

theorem graphic_of_mem_displayIpv6 {bits : BitVec 128} {character : Char}
    (member : character ∈ displayIpv6 bits) : Graphic character := by
  unfold displayIpv6 at member
  split at member
  · rcases List.mem_append.mp member with member | member
    · have graphic : ("::ffff:".toList.all fun character => decide (Graphic character)) = true := by
        decide
      exact of_decide_eq_true (List.all_eq_true.mp graphic character member)
    · exact graphic_of_mem_displayIpv4 member
  · dsimp only at member
    split_ifs at member
    · rcases List.mem_append.mp member with member | member
      · exact graphic_of_mem_displayGroups _ member
      · simp only [List.mem_cons] at member
        rcases member with rfl | rfl | member
        · decide
        · decide
        · exact graphic_of_mem_displayGroups _ member
    · exact graphic_of_mem_displayGroups _ member

/-- The text of an address has printable characters only. -/
theorem graphic_of_mem_display {address : IpAddr} {character : Char}
    (member : character ∈ (display address).toList) : Graphic character := by
  cases address with
  | v4 bits => exact graphic_of_mem_displayIpv4 (by simpa [display] using member)
  | v6 bits => exact graphic_of_mem_displayIpv6 (by simpa [display] using member)

/-! ## The case of addresses

A reader takes both cases of a digit alike, and what it leaves unread keeps its own case. -/

/-- What a reader has read, with the lower case of what it left. -/
def lowerRest {Item : Type} (result : Option (Item × List Char)) : Option (Item × List Char) :=
  result.map fun found => (found.1, found.2.map Char.toLower)

theorem toDigit_toLower (radix : Nat) (character : Char) :
    toDigit radix character.toLower = toDigit radix character := by
  have order (left right : Char) : left ≤ right ↔ left.toNat ≤ right.toNat := by
    rw [Char.le_def, UInt32.le_iff_toNat_le]
    rfl
  have numeric (digit : Char) : toDigit radix digit =
      (if 0x30 ≤ digit.toNat ∧ digit.toNat ≤ 0x39 then some (digit.toNat - 0x30)
        else if 0x61 ≤ digit.toNat ∧ digit.toNat ≤ 0x66 then some (digit.toNat - 0x61 + 10)
        else if 0x41 ≤ digit.toNat ∧ digit.toNat ≤ 0x46 then some (digit.toNat - 0x41 + 10)
        else none).filter (· < radix) := by
    simp only [toDigit, order]
    rfl
  have lowered := AsciiCase.toNat_toLower character
  by_cases capital : 0x41 ≤ character.toNat ∧ character.toNat ≤ 0x5A
  · rw [if_pos capital] at lowered
    by_cases hexadecimal : character.toNat ≤ 0x46
    · have same : character.toNat + 0x20 - 0x61 + 10 = character.toNat - 0x41 + 10 := by omega
      rw [numeric, numeric, lowered, if_neg (by omega), if_pos (by omega), if_neg (by omega),
        if_neg (by omega), if_pos ⟨capital.1, hexadecimal⟩, same]
    · rw [numeric, numeric, lowered, if_neg (by omega), if_neg (by omega), if_neg (by omega),
        if_neg (by omega), if_neg (by omega), if_neg (by omega)]
  · rw [if_neg capital] at lowered
    rw [Char.toNat_inj.mp lowered]

theorem readDigits_toLower (radix maximum value count : Nat) (text : List Char) :
    readDigits radix maximum value count (text.map Char.toLower) =
      (readDigits radix maximum value count text).map fun found =>
        (found.1, found.2.1, found.2.2.map Char.toLower) := by
  induction text generalizing value count with
  | nil => rfl
  | cons character rest ih =>
      rw [List.map_cons, readDigits, readDigits, toDigit_toLower]
      cases toDigit radix character with
      | none => rfl
      | some digit =>
          dsimp only
          split_ifs with many
          · rfl
          · exact ih _ _

theorem head?_toLower_eq_zero (text : List Char) :
    (text.map Char.toLower).head? = some '0' ↔ text.head? = some '0' := by
  cases text with
  | nil => rfl
  | cons character rest =>
      rw [List.map_cons, List.head?_cons, List.head?_cons, Option.some_inj, Option.some_inj,
        AsciiCase.toLower_eq_iff (by decide)]

theorem readNumber_toLower (radix maximum : Nat) (allowZeroPrefix : Bool) (bound : Nat)
    (text : List Char) :
    readNumber radix maximum allowZeroPrefix bound (text.map Char.toLower) =
      lowerRest (readNumber radix maximum allowZeroPrefix bound text) := by
  have zero : ((text.map Char.toLower).head? == some '0') = (text.head? == some '0') := by
    rw [Bool.eq_iff_iff, beq_iff_eq, beq_iff_eq, head?_toLower_eq_zero]
  rw [readNumber, readNumber, readDigits_toLower, zero]
  cases readDigits radix maximum 0 0 text with
  | none => rfl
  | some found =>
      obtain ⟨value, count, rest⟩ := found
      simp only [Option.map_some, Option.bind_eq_bind, Option.bind_some, lowerRest]
      split_ifs <;> rfl

theorem readSeparator_toLower {Item : Type} {separator : Char} (index : Nat)
    {item : List Char → Option (Item × List Char)}
    (caseless : AsciiCase.Caseless separator)
    (item_toLower : ∀ text, item (text.map Char.toLower) = lowerRest (item text))
    (text : List Char) :
    readSeparator separator index item (text.map Char.toLower) =
      lowerRest (readSeparator separator index item text) := by
  unfold readSeparator
  split_ifs with later
  · cases text with
    | nil => rfl
    | cons character rest =>
        simp only [List.map_cons, AsciiCase.toLower_eq_iff caseless]
        split_ifs with same
        · exact item_toLower rest
        · rfl
  · exact item_toLower text

theorem readOctet_toLower (index : Nat) (text : List Char) :
    readOctet index (text.map Char.toLower) = lowerRest (readOctet index text) :=
  readSeparator_toLower index (by decide) (readNumber_toLower 10 3 false 256) text

theorem readIpv4Addr_toLower (text : List Char) :
    readIpv4Addr (text.map Char.toLower) = lowerRest (readIpv4Addr text) := by
  have step {Item : Type} (index : Nat) (text : List Char)
      (next other : Nat × List Char → Option (Item × List Char))
      (later :
        ∀ octet rest, next (octet, rest.map Char.toLower) = lowerRest (other (octet, rest))) :
      (readOctet index (text.map Char.toLower)).bind next =
        lowerRest ((readOctet index text).bind other) := by
    rw [readOctet_toLower]
    cases readOctet index text with
    | none => rfl
    | some found => exact later found.1 found.2
  simp only [readIpv4Addr, Option.bind_eq_bind]
  apply step
  intro first rest
  apply step
  intro second rest
  apply step
  intro third rest
  apply step
  intro fourth rest
  rfl

theorem readGroups_toLower (index slots : Nat) (text : List Char) :
    readGroups index slots (text.map Char.toLower) =
      ((readGroups index slots text).1, (readGroups index slots text).2.1,
        (readGroups index slots text).2.2.map Char.toLower) := by
  induction slots generalizing index text with
  | zero => rfl
  | succ slots ih =>
      have embedded :
          (if 0 < slots then readSeparator ':' index readIpv4Addr (text.map Char.toLower)
            else none) =
          lowerRest (if 0 < slots then readSeparator ':' index readIpv4Addr text else none) := by
        split_ifs
        · exact readSeparator_toLower index (by decide) readIpv4Addr_toLower text
        · rfl
      have group := @readSeparator_toLower _ ':' index _ (by decide)
        (readNumber_toLower 16 4 true 65536) text
      rw [readGroups, readGroups, embedded, group]
      cases (if 0 < slots then readSeparator ':' index readIpv4Addr text else none) with
      | some found => rfl
      | none =>
          cases readSeparator ':' index (readNumber 16 4 true 65536) text with
          | some found =>
              simp only [lowerRest, Option.map_some, Option.map_none, ih]
          | none => rfl

theorem readIpv6Addr_toLower (text : List Char) :
    readIpv6Addr (text.map Char.toLower) = lowerRest (readIpv6Addr text) := by
  rw [readIpv6Addr, readIpv6Addr, readGroups_toLower]
  obtain ⟨head, embedded, rest⟩ := readGroups 0 8 text
  dsimp only
  split_ifs with full
  · rfl
  · rfl
  · by_cases colons : ∃ behind, rest = ':' :: ':' :: behind
    · obtain ⟨behind, rfl⟩ := colons
      have lower : (':' :: ':' :: behind).map Char.toLower =
          ':' :: ':' :: behind.map Char.toLower := rfl
      simp only [lower, readGroups_toLower]
      rfl
    · have other_colons : ¬∃ behind, rest.map Char.toLower = ':' :: ':' :: behind := by
        rintro ⟨behind, same⟩
        obtain ⟨first, tail, rfl, first_eq, same⟩ := List.map_eq_cons_iff.mp same
        obtain ⟨second, tail, rfl, second_eq, _⟩ := List.map_eq_cons_iff.mp same
        rw [AsciiCase.toLower_eq_iff (by decide)] at first_eq second_eq
        subst first_eq second_eq
        exact colons ⟨tail, rfl⟩
      split
      · rename_i behind same
        exact absurd ⟨behind, same⟩ other_colons
      · split
        · exact absurd ⟨_, rfl⟩ colons
        · rfl

/-- Both cases of a text name the same address. -/
theorem parse_toLower (text : List Char) :
    parse (String.ofList (text.map Char.toLower)) = parse (String.ofList text) := by
  rw [parse, parse, String.toList_ofList, String.toList_ofList, readIpv4Addr_toLower,
    readIpv6Addr_toLower]
  cases readIpv4Addr text with
  | some found =>
      simp only [lowerRest, Option.map_some, List.map_eq_nil_iff]
  | none =>
      cases readIpv6Addr text with
      | some found => simp only [lowerRest, Option.map_some, Option.map_none, List.map_eq_nil_iff]
      | none => rfl

/-! ## The characters of addresses -/

/-- The character is a digit or a separator. -/
def Written (character : Char) : Prop :=
  (toDigit 16 character).isSome = true ∨ character = ':' ∨ character = '.'

instance (character : Char) : Decidable (Written character) :=
  inferInstanceAs (Decidable (_ ∨ _))

/-- A reader has taken digits and separators off the front. -/
def Reads (input rest : List Char) : Prop :=
  ∃ front, input = front ++ rest ∧ ∀ character ∈ front, Written character

theorem Reads.refl (input : List Char) : Reads input input :=
  ⟨[], rfl, fun _ member => nomatch member⟩

theorem Reads.trans {input middle rest : List Char} (first : Reads input middle)
    (second : Reads middle rest) : Reads input rest := by
  obtain ⟨front, rfl, front_written⟩ := first
  obtain ⟨next, rfl, next_written⟩ := second
  refine ⟨front ++ next, (List.append_assoc _ _ _).symm, ?_⟩
  intro character member
  exact (List.mem_append.mp member).elim (front_written character) (next_written character)

theorem Reads.cons {input rest : List Char} {character : Char} (written : Written character)
    (reads : Reads input rest) : Reads (character :: input) rest := by
  have single : Reads (character :: input) input :=
    ⟨[character], rfl, fun other member => List.mem_singleton.mp member ▸ written⟩
  exact single.trans reads

theorem written_of_toDigit {radix digit : Nat} {character : Char} (small : radix ≤ 16)
    (read : toDigit radix character = some digit) : Written character := by
  left
  simp only [toDigit, Option.filter_eq_some_iff, decide_eq_true_eq] at read
  rw [Option.isSome_iff_exists]
  refine ⟨digit, ?_⟩
  simp only [toDigit, Option.filter_eq_some_iff, decide_eq_true_eq]
  exact ⟨read.1, read.2.trans_le small⟩

theorem reads_digits {radix maximum value count number total : Nat} {input rest : List Char}
    (small : radix ≤ 16)
    (read : readDigits radix maximum value count input = some (number, total, rest)) :
    Reads input rest := by
  induction input generalizing value count with
  | nil =>
      cases read
      exact .refl _
  | cons character input ih =>
      rw [readDigits] at read
      split at read
      · rename_i digit found
        split_ifs at read with many
        exact .cons (written_of_toDigit small found) (ih read)
      · cases read
        exact .refl _

theorem reads_number {radix maximum bound number : Nat} {allowZeroPrefix : Bool}
    {input rest : List Char} (small : radix ≤ 16)
    (read : readNumber radix maximum allowZeroPrefix bound input = some (number, rest)) :
    Reads input rest := by
  rw [readNumber] at read
  obtain ⟨⟨value, count, left⟩, digits, read⟩ := Option.bind_eq_some_iff.mp read
  dsimp only at read
  split_ifs at read
  cases read
  exact reads_digits small digits

theorem reads_separator {Item : Type} {separator : Char} {index : Nat}
    {item : List Char → Option (Item × List Char)} (written : Written separator)
    (item_reads : ∀ input value rest, item input = some (value, rest) → Reads input rest)
    {input rest : List Char} {value : Item}
    (read : readSeparator separator index item input = some (value, rest)) : Reads input rest := by
  unfold readSeparator at read
  split_ifs at read with later
  · cases input with
    | nil => cases read
    | cons character input =>
        dsimp only at read
        split_ifs at read with same
        subst same
        exact .cons written (item_reads input value rest read)
  · exact item_reads input value rest read

theorem reads_octet {index number : Nat} {input rest : List Char}
    (read : readOctet index input = some (number, rest)) : Reads input rest :=
  reads_separator (by decide) (fun _ _ _ => reads_number (by decide)) read

theorem reads_ipv4 {halves : Nat × Nat} {input rest : List Char}
    (read : readIpv4Addr input = some (halves, rest)) : Reads input rest := by
  rw [readIpv4Addr] at read
  obtain ⟨⟨_, first⟩, one, read⟩ := Option.bind_eq_some_iff.mp read
  obtain ⟨⟨_, second⟩, two, read⟩ := Option.bind_eq_some_iff.mp read
  obtain ⟨⟨_, third⟩, three, read⟩ := Option.bind_eq_some_iff.mp read
  obtain ⟨⟨_, fourth⟩, four, read⟩ := Option.bind_eq_some_iff.mp read
  cases read
  exact (((reads_octet one).trans (reads_octet two)).trans (reads_octet three)).trans
    (reads_octet four)

theorem reads_groups {index slots : Nat} {input rest : List Char} {groups : List Nat}
    {embedded : Bool} (read : readGroups index slots input = (groups, embedded, rest)) :
    Reads input rest := by
  induction slots generalizing index input groups embedded with
  | zero =>
      cases read
      exact .refl _
  | succ slots ih =>
      rw [readGroups] at read
      split at read
      · rename_i high low left found
        cases read
        split_ifs at found
        exact reads_separator (by decide) (fun _ _ _ => reads_ipv4) found
      · split at read
        · rename_i group left found
          have first : Reads input left :=
            reads_separator (by decide) (fun _ _ _ => reads_number (by decide)) found
          cases later : readGroups (index + 1) slots left with
          | mk groups more =>
              obtain ⟨embedded, left⟩ := more
              rw [later] at read
              cases read
              exact first.trans (ih later)
        · cases read
          exact .refl _

theorem reads_ipv6 {groups : List Nat} {input rest : List Char}
    (read : readIpv6Addr input = some (groups, rest)) : Reads input rest := by
  rw [readIpv6Addr] at read
  cases front : readGroups 0 8 input with
  | mk head more =>
      obtain ⟨embedded, left⟩ := more
      rw [front] at read
      have first := reads_groups front
      dsimp only at read
      split_ifs at read with full
      · cases read
        exact first
      · split at read
        · rename_i behind
          cases back : readGroups 0 (8 - (head.length + 1)) behind with
          | mk tail more =>
              obtain ⟨embedded, last⟩ := more
              rw [back] at read
              cases read
              exact first.trans (.cons (by decide) (.cons (by decide) (reads_groups back)))
        · cases read

/-- An address is written with digits and separators. -/
theorem written_of_parse {text : String} {address : IpAddr} (read : parse text = some address)
    {character : Char} (member : character ∈ text.toList) : Written character := by
  have whole : Reads text.toList [] := by
    rw [parse] at read
    split at read
    · rename_i high low rest found
      split_ifs at read with all
      exact all ▸ reads_ipv4 found
    · split at read
      · rename_i groups rest found
        split_ifs at read with all
        exact all ▸ reads_ipv6 found
      · cases read
  obtain ⟨front, same, written⟩ := whole
  rw [List.append_nil] at same
  exact written character (same ▸ member)

end IpAddress
