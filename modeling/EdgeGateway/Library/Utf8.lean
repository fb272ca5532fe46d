import Mathlib.Tactic.Common
import Mathlib.Data.List.Basic
import Mathlib.Data.List.Induction

/-!
# An incremental recognizer of UTF-8

A byte string is valid UTF-8 when it is the concatenated encoding of a list of Unicode scalar
values.  This file gives a byte-at-a-time recognizer of these strings and proves that it rests on
a code-point boundary exactly on the valid ones and survives exactly on their prefixes.  The
number of bytes it still owes never depends on the bytes that follow, which is what an
incremental validator relies on.
-/

namespace Utf8

/-- Concatenated encoding of a list of scalar values. -/
def encode (chars : List Char) : List UInt8 :=
  chars.flatMap String.utf8EncodeChar

/-- The byte string is the encoding of some list of scalar values. -/
def Valid (bytes : List UInt8) : Prop :=
  ∃ chars, bytes = encode chars

/-- The byte string is a prefix of some valid one. -/
def Extends (bytes : List UInt8) : Prop :=
  ∃ rest, Valid (bytes ++ rest)

/-! ## Encoded characters -/

section Widths

variable {character : Char} {value : Nat}

theorem encodeChar_one (scalar : character.val.toNat = value) (high : value ≤ 0x7F) :
    String.utf8EncodeChar character = [UInt8.ofNat value] := by
  subst scalar
  exact if_pos high

theorem encodeChar_two (scalar : character.val.toNat = value) (low : 0x7F < value)
    (high : value ≤ 0x7FF) :
    String.utf8EncodeChar character =
      [UInt8.ofNat (value / 64 % 32 + 192), UInt8.ofNat (value % 64 + 128)] := by
  subst scalar
  exact (if_neg (Nat.not_le.mpr low)).trans (if_pos high)

theorem encodeChar_three (scalar : character.val.toNat = value) (low : 0x7FF < value)
    (high : value ≤ 0xFFFF) :
    String.utf8EncodeChar character =
      [UInt8.ofNat (value / 4096 % 16 + 224), UInt8.ofNat (value / 64 % 64 + 128),
        UInt8.ofNat (value % 64 + 128)] := by
  subst scalar
  have more : ¬character.val.toNat ≤ 0x7F := by omega
  exact (if_neg more).trans ((if_neg (Nat.not_le.mpr low)).trans (if_pos high))

theorem encodeChar_four (scalar : character.val.toNat = value) (low : 0xFFFF < value) :
    String.utf8EncodeChar character =
      [UInt8.ofNat (value / 262144 % 8 + 240), UInt8.ofNat (value / 4096 % 64 + 128),
        UInt8.ofNat (value / 64 % 64 + 128), UInt8.ofNat (value % 64 + 128)] := by
  subst scalar
  have more : ¬character.val.toNat ≤ 0x7F := by omega
  have further : ¬character.val.toNat ≤ 0x7FF := by omega
  exact (if_neg more).trans ((if_neg further).trans (if_neg (Nat.not_le.mpr low)))

end Widths

/-- An ASCII character is its own byte. -/
theorem encodeChar_ascii {character : Char} (ascii : character.toNat < 0x80) :
    String.utf8EncodeChar character = [character.toNat.toUInt8] := by
  exact encodeChar_one rfl (Nat.lt_succ_iff.mp ascii)

/-- A byte that carries bits under a marker. -/
theorem toNat_marked {bits width marker : Nat} (positive : 0 < width)
    (fits : width + marker ≤ 256) :
    (UInt8.ofNat (bits % width + marker)).toNat = bits % width + marker := by
  have below := Nat.mod_lt bits positive
  have small : bits % width + marker < 256 := by omega
  exact UInt8.toNat_ofNat_of_lt small

/-- A continuation byte carries six bits. -/
theorem continuation_range (bits : Nat) :
    0x80 ≤ (UInt8.ofNat (bits % 64 + 128)).toNat ∧
      (UInt8.ofNat (bits % 64 + 128)).toNat ≤ 0xBF := by
  rw [toNat_marked (by decide) (by decide)]
  omega

/-- The bytes of other characters are not ASCII. -/
theorem not_ascii_of_mem_encodeChar {character : Char} (high : 0x80 ≤ character.toNat)
    {byte : UInt8}
    (member : byte ∈ String.utf8EncodeChar character) : 0x80 ≤ byte := by
  rw [UInt8.le_iff_toNat_le]
  change 0x80 ≤ character.val.toNat at high
  change 0x80 ≤ byte.toNat
  have led {bits width marker : Nat} (positive : 0 < width) (fits : width + marker ≤ 256)
      (marked : 0x80 ≤ marker) : 0x80 ≤ (UInt8.ofNat (bits % width + marker)).toNat := by
    rw [toNat_marked positive fits]
    omega
  by_cases two : character.val.toNat ≤ 0x7FF
  · rw [encodeChar_two rfl (by omega) two] at member
    simp only [List.mem_cons, List.not_mem_nil, or_false] at member
    rcases member with rfl | rfl
    · exact led (by decide) (by decide) (by decide)
    · exact (continuation_range _).1
  by_cases three : character.val.toNat ≤ 0xFFFF
  · rw [encodeChar_three rfl (by omega) three] at member
    simp only [List.mem_cons, List.not_mem_nil, or_false] at member
    rcases member with rfl | rfl | rfl
    · exact led (by decide) (by decide) (by decide)
    · exact (continuation_range _).1
    · exact (continuation_range _).1
  · rw [encodeChar_four rfl (by omega)] at member
    simp only [List.mem_cons, List.not_mem_nil, or_false] at member
    rcases member with rfl | rfl | rfl | rfl
    · exact led (by decide) (by decide) (by decide)
    · exact (continuation_range _).1
    · exact (continuation_range _).1
    · exact (continuation_range _).1

theorem encodeChar_ne_nil (character : Char) : String.utf8EncodeChar character ≠ [] := by
  intro empty
  have length := String.length_utf8EncodeChar character
  rw [empty] at length
  exact absurd length.symm (Nat.pos_iff_ne_zero.mp character.utf8Size_pos)

theorem encode_cons (character : Char) (chars : List Char) :
    encode (character :: chars) = String.utf8EncodeChar character ++ encode chars :=
  List.flatMap_cons

theorem encode_append (left right : List Char) :
    encode (left ++ right) = encode left ++ encode right :=
  List.flatMap_append

theorem encode_ascii {chars : List Char} (ascii : ∀ character ∈ chars, character.toNat < 0x80) :
    encode chars = chars.map fun character => character.toNat.toUInt8 := by
  induction chars with
  | nil => rfl
  | cons character rest ih =>
      have tail := ih fun other member => ascii other (List.mem_cons_of_mem _ member)
      rw [encode_cons, encodeChar_ascii (ascii character List.mem_cons_self), tail, List.map_cons,
        List.singleton_append]

/-- An ASCII byte of an encoded character is the character itself. -/
theorem eq_of_mem_encodeChar {character ascii : Char} (low : ascii.toNat < 0x80)
    (member : ascii.toNat.toUInt8 ∈ String.utf8EncodeChar character) : character = ascii := by
  by_cases small : character.toNat < 0x80
  · rw [encodeChar_ascii small, List.mem_singleton] at member
    have same := congrArg UInt8.toNat member
    simp only [Nat.toUInt8_eq, UInt8.toNat_ofNat'] at same
    exact Char.toNat_inj.mp (by omega)
  · have high := not_ascii_of_mem_encodeChar (by omega) member
    rw [UInt8.le_iff_toNat_le, Nat.toUInt8_eq, UInt8.toNat_ofNat'] at high
    exact absurd high (by simp; omega)

/-- An encoded text starts with an ASCII byte when the text starts with that character. -/
theorem head?_encode {chars : List Char} {ascii : Char} (low : ascii.toNat < 0x80) :
    (encode chars).head? = some ascii.toNat.toUInt8 ↔ chars.head? = some ascii := by
  cases chars with
  | nil => simp [encode]
  | cons character rest =>
      have first : (encode (character :: rest)).head? =
          (String.utf8EncodeChar character).head? := by
        obtain ⟨byte, bytes, encoded⟩ := List.exists_cons_of_ne_nil (encodeChar_ne_nil character)
        rw [encode_cons, encoded, List.cons_append, List.head?_cons, List.head?_cons]
      rw [first, List.head?_cons, Option.some_inj]
      constructor
      · exact fun first => eq_of_mem_encodeChar low (List.mem_of_head? first)
      · rintro rfl
        rw [encodeChar_ascii low, List.head?_cons]

/-- An encoded text ends in an ASCII byte when the text ends in that character. -/
theorem getLast?_encode {chars : List Char} {ascii : Char} (low : ascii.toNat < 0x80) :
    (encode chars).getLast? = some ascii.toNat.toUInt8 ↔ chars.getLast? = some ascii := by
  induction chars using List.reverseRecOn with
  | nil => simp [encode]
  | append_singleton rest character _ =>
      have encoded : encode [character] = String.utf8EncodeChar character := by
        rw [encode_cons, encode, List.flatMap_nil, List.append_nil]
      have last : (encode (rest ++ [character])).getLast? =
          (String.utf8EncodeChar character).getLast? := by
        rw [encode_append, encoded,
          List.getLast?_append_of_ne_nil _ (encodeChar_ne_nil character)]
      rw [last, List.getLast?_concat, Option.some_inj]
      constructor
      · exact fun last => eq_of_mem_encodeChar low (List.mem_of_getLast? last)
      · rintro rfl
        rw [encodeChar_ascii low, List.getLast?_singleton]

theorem valid_nil : Valid [] := ⟨[], rfl⟩

theorem Valid.append {left right : List UInt8} (leftValid : Valid left) (rightValid : Valid right) :
    Valid (left ++ right) := by
  obtain ⟨leftChars, rfl⟩ := leftValid
  obtain ⟨rightChars, rfl⟩ := rightValid
  exact ⟨leftChars ++ rightChars, by simp [encode]⟩

/-- Where the recognizer stands between two bytes. -/
inductive State
  /-- Between two code points. -/
  | boundary
  /-- The next byte lies in `low..high`, and `more` plain continuation bytes follow it. -/
  | inside (more low high : Nat)
  deriving DecidableEq

namespace State

/-- Bytes still missing before the next boundary. -/
def owed : State → Nat
  | boundary => 0
  | inside more _ _ => more + 1

/-- The state that owes `count` plain continuation bytes. -/
def continuing : Nat → State
  | 0 => boundary
  | count + 1 => inside count 0x80 0xBF

@[simp] theorem owed_continuing (count : Nat) : (continuing count).owed = count := by
  cases count <;> rfl

@[simp] theorem owed_eq_zero {state : State} : state.owed = 0 ↔ state = boundary := by
  cases state <;> simp [owed]

end State

open State

/-- The state after the first byte of a code point. -/
def lead (byte : Nat) : Option State :=
  if byte < 0x80 then some boundary
  else if byte < 0xC2 then none
  else if byte < 0xE0 then some (continuing 1)
  else if byte = 0xE0 then some (inside 1 0xA0 0xBF)
  else if byte = 0xED then some (inside 1 0x80 0x9F)
  else if byte < 0xF0 then some (continuing 2)
  else if byte = 0xF0 then some (inside 2 0x90 0xBF)
  else if byte < 0xF4 then some (continuing 3)
  else if byte = 0xF4 then some (inside 2 0x80 0x8F)
  else none

section Lead

variable {byte : Nat}

theorem lead_ascii (high : byte < 0x80) : lead byte = some boundary :=
  if_pos high

theorem lead_two (low : 0xC2 ≤ byte) (high : byte < 0xE0) : lead byte = some (continuing 1) := by
  rw [lead, if_neg (by omega), if_neg (by omega), if_pos high]

theorem lead_three (low : 0xE0 ≤ byte) (high : byte < 0xF0) :
    lead byte = some (inside 1 (if byte = 0xE0 then 0xA0 else 0x80)
      (if byte = 0xED then 0x9F else 0xBF)) := by
  rw [lead, if_neg (by omega), if_neg (by omega), if_neg (by omega)]
  by_cases first : byte = 0xE0
  · subst first
    rfl
  · rw [if_neg first, if_neg first]
    by_cases surrogates : byte = 0xED
    · rw [if_pos surrogates, if_pos surrogates]
    · rw [if_neg surrogates, if_neg surrogates, if_pos high]
      rfl

theorem lead_four (low : 0xF0 ≤ byte) (high : byte < 0xF5) :
    lead byte = some (inside 2 (if byte = 0xF0 then 0x90 else 0x80)
      (if byte = 0xF4 then 0x8F else 0xBF)) := by
  rw [lead, if_neg (by omega), if_neg (by omega), if_neg (by omega), if_neg (by omega),
    if_neg (by omega), if_neg (by omega)]
  by_cases first : byte = 0xF0
  · subst first
    rfl
  · rw [if_neg first, if_neg first]
    by_cases last : byte = 0xF4
    · subst last
      rfl
    · rw [if_pos (by omega), if_neg last]
      rfl

/-- No code point starts with a plain continuation byte, or beyond the last scalar value. -/
theorem lead_range {state : State} (accepted : lead byte = some state) :
    byte < 0x80 ∨ 0xC2 ≤ byte ∧ byte < 0xF5 := by
  by_contra outside
  have ascii : ¬byte < 0x80 := fun low => outside (.inl low)
  by_cases plain : byte < 0xC2
  · rw [lead, if_neg ascii, if_pos plain] at accepted
    cases accepted
  · rw [lead, if_neg ascii, if_neg plain, if_neg (by omega), if_neg (by omega), if_neg (by omega),
      if_neg (by omega), if_neg (by omega), if_neg (by omega), if_neg (by omega)] at accepted
    cases accepted

end Lead

/-- One byte: the next state, or nothing where no valid string continues. -/
def step : State → UInt8 → Option State
  | boundary, byte => lead byte.toNat
  | inside more low high, byte =>
      if low ≤ byte.toNat ∧ byte.toNat ≤ high then some (continuing more) else none

/-- All bytes of a string, one after another. -/
def run : State → List UInt8 → Option State
  | state, [] => some state
  | state, byte :: bytes => (step state byte).bind fun next => run next bytes

@[simp] theorem run_nil (state : State) : run state [] = some state := rfl

theorem run_cons (state : State) (byte : UInt8) (bytes : List UInt8) :
    run state (byte :: bytes) = (step state byte).bind fun next => run next bytes := rfl

theorem run_append (state : State) (left right : List UInt8) :
    run state (left ++ right) = (run state left).bind fun middle => run middle right := by
  induction left generalizing state with
  | nil => rfl
  | cons byte left ih =>
      simp only [List.cons_append, run_cons]
      cases step state byte with
      | none => rfl
      | some next => exact ih next

/-! ## The owed bytes -/

/-- Inside a code point every accepted byte pays one owed byte. -/
theorem owed_step {state next : State} {byte : UInt8} (inner : state ≠ boundary)
    (stepped : step state byte = some next) : next.owed + 1 = state.owed := by
  cases state with
  | boundary => exact absurd rfl inner
  | inside more low high =>
      simp only [step] at stepped
      split at stepped
      · cases stepped
        rw [owed_continuing, owed]
      · cases stepped

/-- A run no longer than the owed bytes pays for each of its bytes. -/
theorem owed_run {state final : State} {bytes : List UInt8} (fits : bytes.length ≤ state.owed)
    (ran : run state bytes = some final) : final.owed + bytes.length = state.owed := by
  induction bytes generalizing state with
  | nil => cases ran; simp
  | cons byte bytes ih =>
      simp only [List.length_cons] at fits ⊢
      have inner : state ≠ boundary := by
        rintro rfl
        simp [owed] at fits
      rw [run_cons] at ran
      cases stepped : step state byte with
      | none => simp [stepped] at ran
      | some next =>
          have paid := owed_step inner stepped
          have rest := @ih next (by omega) (by simpa [stepped] using ran)
          omega

/-- Bytes in the code point that a multi-byte first byte announces. -/
def announcedWidth (first : UInt8) : Nat :=
  if first < 0xE0 then 2 else if first < 0xF0 then 3 else 4

/-- The width a first byte announces, less the byte itself, is what the recognizer then owes. -/
theorem owed_lead {first : UInt8} {state : State} (accepted : step boundary first = some state)
    (inner : state ≠ boundary) : state.owed + 1 = announcedWidth first := by
  rw [step] at accepted
  have two_iff : first < 0xE0 ↔ first.toNat < 0xE0 := UInt8.lt_iff_toNat_lt
  have three_iff : first < 0xF0 ↔ first.toNat < 0xF0 := UInt8.lt_iff_toNat_lt
  rcases lead_range accepted with ascii | ⟨low, high⟩
  · rw [lead_ascii ascii] at accepted
    exact absurd (Option.some.inj accepted).symm inner
  by_cases two : first.toNat < 0xE0
  · rw [lead_two low two] at accepted
    cases accepted
    rw [announcedWidth, if_pos (two_iff.mpr two), owed_continuing]
  have beyond : ¬first < 0xE0 := mt two_iff.mp two
  by_cases three : first.toNat < 0xF0
  · rw [lead_three (Nat.le_of_not_lt two) three] at accepted
    cases accepted
    rw [announcedWidth, if_neg beyond, if_pos (three_iff.mpr three), owed]
  · rw [lead_four (Nat.le_of_not_lt three) high] at accepted
    cases accepted
    rw [announcedWidth, if_neg beyond, if_neg (mt three_iff.mp three), owed]

/-- A byte that is a code point by itself announces, if anything, two bytes. -/
theorem announcedWidth_of_boundary {first : UInt8} (alone : step boundary first = some boundary) :
    announcedWidth first = 2 := by
  have two_iff : first < 0xE0 ↔ first.toNat < 0xE0 := UInt8.lt_iff_toNat_lt
  rcases lead_range alone with ascii | ⟨low, high⟩
  · rw [announcedWidth, if_pos (two_iff.mpr (by omega))]
  rw [step] at alone
  by_cases two : first.toNat < 0xE0
  · rw [announcedWidth, if_pos (two_iff.mpr two)]
  by_cases three : first.toNat < 0xF0
  · rw [lead_three (Nat.le_of_not_lt two) three] at alone
    cases alone
  · rw [lead_four (Nat.le_of_not_lt three) high] at alone
    cases alone

/-! ## Valid strings and their prefixes -/

theorem step_inside {more low high : Nat} {byte : UInt8} (above : low ≤ byte.toNat)
    (below : byte.toNat ≤ high) : step (inside more low high) byte = some (continuing more) :=
  if_pos ⟨above, below⟩

/-- The encoding of one scalar value leads from boundary to boundary. -/
theorem run_encodeChar (char : Char) :
    run boundary (String.utf8EncodeChar char) = some boundary := by
  have scalar : char.val.toNat < 0xD800 ∨ 0xDFFF < char.val.toNat ∧ char.val.toNat < 0x110000 :=
    char.valid
  obtain ⟨value, named⟩ : ∃ value, char.val.toNat = value := ⟨_, rfl⟩
  rw [named] at scalar
  by_cases one : value ≤ 0x7F
  · have below : value < 256 := by omega
    have small : (UInt8.ofNat value).toNat = value := UInt8.toNat_ofNat_of_lt below
    rw [encodeChar_one named one, run_cons, step, small, lead_ascii (by omega)]
    rfl
  by_cases two : value ≤ 0x7FF
  · rw [encodeChar_two named (by omega) two, run_cons, step,
      toNat_marked (by decide) (by decide), lead_two (by omega) (by omega), Option.bind_some,
      run_cons, continuing, step_inside (continuation_range _).1 (continuation_range _).2]
    rfl
  by_cases three : value ≤ 0xFFFF
  · have second : (UInt8.ofNat (value / 64 % 64 + 128)).toNat = value / 64 % 64 + 128 :=
      toNat_marked (by decide) (by decide)
    rw [encodeChar_three named (by omega) three, run_cons, step,
      toNat_marked (by decide) (by decide), lead_three (by omega) (by omega), Option.bind_some,
      run_cons,
      step_inside (by rw [second]; split_ifs <;> omega) (by rw [second]; split_ifs <;> omega),
      Option.bind_some, run_cons, continuing,
      step_inside (continuation_range _).1 (continuation_range _).2]
    rfl
  · have second : (UInt8.ofNat (value / 4096 % 64 + 128)).toNat = value / 4096 % 64 + 128 :=
      toNat_marked (by decide) (by decide)
    rw [encodeChar_four named (by omega), run_cons, step, toNat_marked (by decide) (by decide),
      lead_four (by omega) (by omega), Option.bind_some, run_cons,
      step_inside (by rw [second]; split_ifs <;> omega) (by rw [second]; split_ifs <;> omega),
      Option.bind_some, run_cons, continuing,
      step_inside (continuation_range _).1 (continuation_range _).2,
      Option.bind_some, run_cons, continuing,
      step_inside (continuation_range _).1 (continuation_range _).2]
    rfl

theorem run_encode (chars : List Char) : run boundary (encode chars) = some boundary := by
  induction chars with
  | nil => rfl
  | cons char chars ih =>
      rw [encode, List.flatMap_cons, run_append, run_encodeChar]
      exact ih

/-- An inner state reaches a boundary only through a byte of its range. -/
theorem run_inside {more low high : Nat} {bytes : List UInt8}
    (reached : run (inside more low high) bytes = some boundary) :
    ∃ byte rest, bytes = byte :: rest ∧ low ≤ byte.toNat ∧ byte.toNat ≤ high ∧
      run (continuing more) rest = some boundary := by
  cases bytes with
  | nil => simp at reached
  | cons byte rest =>
      rw [run_cons, step] at reached
      split_ifs at reached with range
      · exact ⟨byte, rest, rfl, range.1, range.2, by simpa using reached⟩
      · simp at reached

private theorem exists_scalar (value : Nat) (valid : value.isValidChar) :
    ∃ char : Char, char.val.toNat = value :=
  ⟨Char.ofNatAux value valid, rfl⟩

private theorem decode_one {first : UInt8} (high : first.toNat < 0x80) :
    ∃ char, String.utf8EncodeChar char = [first] := by
  obtain ⟨char, charVal⟩ := exists_scalar first.toNat (by left; omega)
  refine ⟨char, ?_⟩
  rw [encodeChar_one charVal (by omega), UInt8.ofNat_toNat]

private theorem decode_two {first second : UInt8} (low : 0xC2 ≤ first.toNat)
    (high : first.toNat < 0xE0) (secondLow : 0x80 ≤ second.toNat)
    (secondHigh : second.toNat ≤ 0xBF) :
    ∃ char, String.utf8EncodeChar char = [first, second] := by
  obtain ⟨char, charVal⟩ := exists_scalar
    ((first.toNat - 192) * 64 + (second.toNat - 128)) (by left; omega)
  refine ⟨char, ?_⟩
  have lead_bits : ((first.toNat - 192) * 64 + (second.toNat - 128)) / 64 % 32 + 192 =
      first.toNat := by omega
  have last_bits : ((first.toNat - 192) * 64 + (second.toNat - 128)) % 64 + 128 =
      second.toNat := by omega
  rw [encodeChar_two charVal (by omega) (by omega), lead_bits, last_bits, UInt8.ofNat_toNat,
    UInt8.ofNat_toNat]

private theorem decode_three {first second third : UInt8} (low : 0xE0 ≤ first.toNat)
    (high : first.toNat < 0xF0)
    (secondLow : (if first.toNat = 0xE0 then 0xA0 else 0x80) ≤ second.toNat)
    (secondHigh : second.toNat ≤ if first.toNat = 0xED then 0x9F else 0xBF)
    (thirdLow : 0x80 ≤ third.toNat) (thirdHigh : third.toNat ≤ 0xBF) :
    ∃ char, String.utf8EncodeChar char = [first, second, third] := by
  have second_low : 0x80 ≤ second.toNat := by split_ifs at secondLow <;> omega
  have second_high : second.toNat ≤ 0xBF := by split_ifs at secondHigh <;> omega
  obtain ⟨value, split⟩ : ∃ value, value =
      (first.toNat - 224) * 4096 + (second.toNat - 128) * 64 + (third.toNat - 128) := ⟨_, rfl⟩
  have above : 0x7FF < value := by split_ifs at secondLow <;> omega
  have scalar : value.isValidChar := by
    unfold Nat.isValidChar
    split_ifs at secondHigh <;> omega
  obtain ⟨char, charVal⟩ := exists_scalar value scalar
  have lead_bits : value / 4096 % 16 + 224 = first.toNat := by omega
  have second_bits : value / 64 % 64 + 128 = second.toNat := by omega
  have last_bits : value % 64 + 128 = third.toNat := by omega
  refine ⟨char, ?_⟩
  rw [encodeChar_three charVal above (by omega), lead_bits, second_bits, last_bits,
    UInt8.ofNat_toNat, UInt8.ofNat_toNat, UInt8.ofNat_toNat]

private theorem decode_four {first second third fourth : UInt8} (low : 0xF0 ≤ first.toNat)
    (high : first.toNat < 0xF5)
    (secondLow : (if first.toNat = 0xF0 then 0x90 else 0x80) ≤ second.toNat)
    (secondHigh : second.toNat ≤ if first.toNat = 0xF4 then 0x8F else 0xBF)
    (thirdLow : 0x80 ≤ third.toNat) (thirdHigh : third.toNat ≤ 0xBF)
    (fourthLow : 0x80 ≤ fourth.toNat) (fourthHigh : fourth.toNat ≤ 0xBF) :
    ∃ char, String.utf8EncodeChar char = [first, second, third, fourth] := by
  have second_low : 0x80 ≤ second.toNat := by split_ifs at secondLow <;> omega
  have second_high : second.toNat ≤ 0xBF := by split_ifs at secondHigh <;> omega
  obtain ⟨value, split⟩ : ∃ value, value = (first.toNat - 240) * 262144 +
      (second.toNat - 128) * 4096 + (third.toNat - 128) * 64 + (fourth.toNat - 128) := ⟨_, rfl⟩
  have above : 0xFFFF < value := by split_ifs at secondLow <;> omega
  have scalar : value.isValidChar := by
    unfold Nat.isValidChar
    split_ifs at secondHigh <;> omega
  obtain ⟨char, charVal⟩ := exists_scalar value scalar
  have lead_bits : value / 262144 % 8 + 240 = first.toNat := by omega
  have second_bits : value / 4096 % 64 + 128 = second.toNat := by omega
  have third_bits : value / 64 % 64 + 128 = third.toNat := by omega
  have last_bits : value % 64 + 128 = fourth.toNat := by omega
  refine ⟨char, ?_⟩
  rw [encodeChar_four charVal above, lead_bits, second_bits, third_bits, last_bits,
    UInt8.ofNat_toNat, UInt8.ofNat_toNat, UInt8.ofNat_toNat, UInt8.ofNat_toNat]

/-- A run that ends at a boundary starts with the encoding of one scalar value. -/
theorem decode_of_run {first : UInt8} {bytes : List UInt8}
    (reached : run boundary (first :: bytes) = some boundary) :
    ∃ char rest, first :: bytes = String.utf8EncodeChar char ++ rest ∧
      run boundary rest = some boundary := by
  rw [run_cons, step] at reached
  obtain ⟨state, accepted, _⟩ := Option.bind_eq_some_iff.mp reached
  have range := lead_range accepted
  by_cases one : first.toNat < 0x80
  · obtain ⟨char, encoded⟩ := decode_one one
    refine ⟨char, bytes, by rw [encoded]; rfl, ?_⟩
    simpa [lead, one] using reached
  have low : 0xC2 ≤ first.toNat := (range.resolve_left one).1
  have high : first.toNat < 0xF5 := (range.resolve_left one).2
  by_cases two : first.toNat < 0xE0
  · rw [lead_two low two, Option.bind_some] at reached
    obtain ⟨second, rest, rfl, secondLow, secondHigh, reached⟩ := run_inside reached
    obtain ⟨char, encoded⟩ := decode_two low two secondLow secondHigh
    exact ⟨char, rest, by rw [encoded]; rfl, reached⟩
  by_cases three : first.toNat < 0xF0
  · rw [lead_three (by omega) three, Option.bind_some] at reached
    obtain ⟨second, _, rfl, secondLow, secondHigh, reached⟩ := run_inside reached
    obtain ⟨third, rest, rfl, thirdLow, thirdHigh, reached⟩ := run_inside reached
    obtain ⟨char, encoded⟩ :=
      decode_three (by omega) three secondLow secondHigh thirdLow thirdHigh
    exact ⟨char, rest, by rw [encoded]; rfl, reached⟩
  · rw [lead_four (by omega) high, Option.bind_some] at reached
    obtain ⟨second, _, rfl, secondLow, secondHigh, reached⟩ := run_inside reached
    obtain ⟨third, _, rfl, thirdLow, thirdHigh, reached⟩ := run_inside reached
    obtain ⟨fourth, rest, rfl, fourthLow, fourthHigh, reached⟩ := run_inside reached
    obtain ⟨char, encoded⟩ := decode_four (by omega) high secondLow secondHigh thirdLow
      thirdHigh fourthLow fourthHigh
    exact ⟨char, rest, by rw [encoded]; rfl, reached⟩

/-- The recognizer rests on a boundary exactly after the valid strings. -/
theorem run_eq_boundary_iff (bytes : List UInt8) :
    run boundary bytes = some boundary ↔ Valid bytes := by
  constructor
  · intro reached
    induction length : bytes.length using Nat.strongRecOn generalizing bytes with
    | ind length ih =>
        cases bytes with
        | nil => exact valid_nil
        | cons first bytes =>
            obtain ⟨char, rest, split, reached⟩ := decode_of_run reached
            have shorter : rest.length < (first :: bytes).length := by
              rw [split, List.length_append, String.length_utf8EncodeChar]
              have := char.utf8Size_pos
              omega
            obtain ⟨chars, rfl⟩ := ih rest.length (by omega) rest reached rfl
            exact ⟨char :: chars, by rw [split]; rfl⟩
  · rintro ⟨chars, rfl⟩
    exact run_encode chars

/-- Bytes that lead a state back to the boundary. -/
def completion : State → List UInt8
  | boundary => []
  | inside more low _ => UInt8.ofNat low :: List.replicate more 0x80

/-- Every state an accepted byte leads to can be completed. -/
def Completable (state : State) : Prop :=
  run state (completion state) = some boundary

theorem run_continuing (count : Nat) :
    run (continuing count) (List.replicate count 0x80) = some boundary := by
  induction count with
  | zero => rfl
  | succ count ih =>
      rw [List.replicate_succ, run_cons, continuing, step_inside (by decide) (by decide)]
      exact ih

theorem completable_inside {more low high : Nat} (below : low ≤ high) (small : high < 256) :
    Completable (inside more low high) := by
  have first : (UInt8.ofNat low).toNat = low :=
    UInt8.toNat_ofNat_of_lt (Nat.lt_of_le_of_lt below small)
  rw [Completable, completion, run_cons, step_inside (by omega) (by omega)]
  exact run_continuing more

theorem completable_continuing (count : Nat) : Completable (continuing count) := by
  cases count with
  | zero => rfl
  | succ count => exact completable_inside (by decide) (by decide)

theorem completable_step {state next : State} {byte : UInt8}
    (stepped : step state byte = some next) : Completable next := by
  cases state with
  | inside more low high =>
      rw [step] at stepped
      split_ifs at stepped
      exact Option.some.inj stepped ▸ completable_continuing more
  | boundary =>
      rw [step] at stepped
      rcases lead_range stepped with ascii | ⟨low, high⟩
      · rw [lead_ascii ascii] at stepped
        cases stepped
        exact completable_continuing 0
      by_cases two : byte.toNat < 0xE0
      · rw [lead_two low two] at stepped
        cases stepped
        exact completable_continuing 1
      by_cases three : byte.toNat < 0xF0
      · rw [lead_three (Nat.le_of_not_lt two) three] at stepped
        cases stepped
        exact completable_inside (by split_ifs <;> omega) (by split_ifs <;> omega)
      · rw [lead_four (Nat.le_of_not_lt three) high] at stepped
        cases stepped
        exact completable_inside (by split_ifs <;> omega) (by split_ifs <;> omega)

theorem completable_run {state final : State} {bytes : List UInt8} (start : Completable state)
    (ran : run state bytes = some final) : Completable final := by
  induction bytes generalizing state with
  | nil => exact Option.some.inj ran ▸ start
  | cons byte bytes ih =>
      rw [run_cons] at ran
      cases stepped : step state byte with
      | none => simp [stepped] at ran
      | some next => exact ih (completable_step stepped) (by simpa [stepped] using ran)

/-- The recognizer survives exactly the prefixes of valid strings. -/
theorem run_isSome_iff (bytes : List UInt8) :
    (∃ state, run boundary bytes = some state) ↔ Extends bytes := by
  constructor
  · rintro ⟨state, ran⟩
    refine ⟨completion state, (run_eq_boundary_iff _).mp ?_⟩
    rw [run_append, ran]
    exact completable_run (completable_continuing 0) ran
  · rintro ⟨rest, valid⟩
    have ran := (run_eq_boundary_iff _).mpr valid
    rw [run_append] at ran
    cases first : run boundary bytes with
    | none => simp [first] at ran
    | some state => exact ⟨state, rfl⟩

/-! ## Leftover bytes -/

/-- The bytes of an unfinished code point that bring the recognizer from a boundary to `state`. -/
structure Partial (tail : List UInt8) (state : State) : Prop where
  ran : run boundary tail = some state
  inner : state ≠ boundary
  /-- The first byte is present and announces exactly the present and the owed bytes. -/
  width : ∃ first rest, tail = first :: rest ∧ state.owed + tail.length = announcedWidth first

/-- What an incremental validator keeps of the bytes that led to `state`. -/
def Leftover (tail : List UInt8) (state : State) : Prop :=
  (tail = [] ∧ state = boundary) ∨ Partial tail state

theorem Leftover.ran {tail : List UInt8} {state : State} (leftover : Leftover tail state) :
    run boundary tail = some state := by
  rcases leftover with ⟨rfl, rfl⟩ | unfinished
  · rfl
  · exact unfinished.ran

theorem Leftover.partial_step {tail : List UInt8} {state next : State} {byte : UInt8}
    (leftover : Leftover tail state) (stepped : step state byte = some next)
    (inner : next ≠ boundary) : Partial (tail ++ [byte]) next := by
  have ran : run boundary (tail ++ [byte]) = some next := by
    rw [run_append, leftover.ran, Option.bind_some, run_cons, stepped]
    rfl
  rcases leftover with ⟨rfl, rfl⟩ | unfinished
  · exact ⟨ran, inner, byte, [], rfl, owed_lead stepped inner⟩
  · obtain ⟨first, rest, split, width⟩ := unfinished.width
    refine ⟨ran, inner, first, rest ++ [byte], by rw [split]; rfl, ?_⟩
    have paid := owed_step unfinished.inner stepped
    simp only [List.length_append, List.length_singleton]
    omega

/-- More bytes that stay inside the same code point extend the unfinished part. -/
theorem Partial.extend {tail bytes : List UInt8} {state final : State}
    (unfinished : Partial tail state) (ran : run state bytes = some final)
    (fits : bytes.length ≤ state.owed) (inner : final ≠ boundary) :
    Partial (tail ++ bytes) final := by
  obtain ⟨first, rest, split, width⟩ := unfinished.width
  refine ⟨?_, inner, first, rest ++ bytes, by rw [split]; rfl, ?_⟩
  · rw [run_append, unfinished.ran]
    exact ran
  · have paid := owed_run fits ran
    rw [List.length_append]
    omega

/-- An unfinished code point has at most three bytes, one less than its first byte announces at
least. -/
theorem Partial.length_lt {tail : List UInt8} {state : State} (unfinished : Partial tail state) :
    ∃ first rest, tail = first :: rest ∧ tail.length < announcedWidth first := by
  obtain ⟨first, rest, split, width⟩ := unfinished.width
  have owing : state.owed ≠ 0 := fun paid => unfinished.inner (owed_eq_zero.mp paid)
  exact ⟨first, rest, split, by omega⟩

/-- An unfinished code point is a proper prefix of the encoding of a scalar value. -/
theorem Partial.begins_encoding {tail : List UInt8} {state : State}
    (unfinished : Partial tail state) :
    ∃ character missing, missing ≠ [] ∧ String.utf8EncodeChar character = tail ++ missing := by
  obtain ⟨first, rest, rfl, width⟩ := unfinished.width
  have owing : state.owed ≠ 0 := fun paid => unfinished.inner (owed_eq_zero.mp paid)
  obtain ⟨more, chars, whole⟩ := (run_isSome_iff (first :: rest)).mp ⟨state, unfinished.ran⟩
  cases chars with
  | nil => cases whole
  | cons character chars =>
      rw [encode_cons] at whole
      rcases List.append_eq_append_iff.mp whole with ⟨missing, inside, _⟩ | ⟨beyond, outside, _⟩
      · refine ⟨character, missing, ?_, inside⟩
        rintro rfl
        have closed := run_encodeChar character
        rw [inside, List.append_nil, unfinished.ran] at closed
        exact unfinished.inner (Option.some.inj closed)
      · -- A whole character in front would have paid what the first byte owes.
        have closed := run_encodeChar character
        cases encoded : String.utf8EncodeChar character with
        | nil => exact absurd encoded (encodeChar_ne_nil character)
        | cons lead inner =>
            rw [encoded, List.cons_append] at outside
            obtain ⟨rfl, rfl⟩ := List.cons.inj outside
            rw [encoded, run_cons] at closed
            obtain ⟨opened, stepped, paid⟩ := Option.bind_eq_some_iff.mp closed
            rw [List.length_cons, List.length_append] at width
            by_cases alone : opened = boundary
            · subst alone
              rw [announcedWidth_of_boundary stepped] at width
              have nothing : inner ++ beyond = [] := by
                rw [← List.length_eq_zero_iff, List.length_append]
                omega
              have ran := unfinished.ran
              rw [run_cons, stepped, nothing] at ran
              exact absurd (Option.some.inj ran).symm unfinished.inner
            · have announced := owed_lead stepped alone
              have total := owed_run (by omega) paid
              rw [owed_eq_zero.mpr rfl] at total
              omega

/-! ## The validating scan -/

/-- Where and how a byte string fails to be valid. -/
structure Utf8Error where
  /-- Length of the longest valid prefix. -/
  validUpTo : Nat
  /-- Length of the invalid sequence there, or nothing where the input merely ends too early. -/
  errorLen : Option Nat
  deriving DecidableEq

/-- Scan from `state`, which `seen` bytes past the boundary at `start` led to. -/
def scan : State → (start seen : Nat) → List UInt8 → Except Utf8Error Unit
  | boundary, _, _, [] => .ok ()
  | inside .., start, _, [] => .error { validUpTo := start, errorLen := none }
  | state, start, seen, byte :: bytes =>
      match step state byte with
      | none => .error { validUpTo := start, errorLen := some (max seen 1) }
      | some boundary => scan boundary (start + seen + 1) 0 bytes
      | some next => scan next start (seen + 1) bytes

/-- Validate a whole byte string. -/
def fromUtf8 (bytes : List UInt8) : Except Utf8Error Unit :=
  scan boundary 0 0 bytes

/-- What a scan reports, in terms of the recognizer. -/
inductive Scanned (all : List UInt8) : Option State → Except Utf8Error Unit → Prop
  | valid : Scanned all (some boundary) (.ok ())
  | truncated {state : State} {cut : Nat} (unfinished : Partial (all.drop cut) state) :
      Scanned all (some state) (.error { validUpTo := cut, errorLen := none })
  | invalid {cut width : Nat} :
      Scanned all none (.error { validUpTo := cut, errorLen := some width })

theorem scanned_scan {state : State} {front seen bytes : List UInt8}
    (leftover : Leftover seen state) :
    Scanned (front ++ seen ++ bytes) (run state bytes)
      (scan state front.length seen.length bytes) := by
  induction bytes generalizing state front seen with
  | nil =>
      cases state with
      | boundary => exact .valid
      | inside more low high =>
          rcases leftover with ⟨_, atBoundary⟩ | unfinished
          · cases atBoundary
          · exact .truncated (by simpa using unfinished)
  | cons byte bytes ih =>
      rw [run_cons, scan]
      cases stepped : step state byte with
      | none => exact .invalid
      | some next =>
          cases next with
          | boundary =>
              have rest := @ih boundary (front ++ seen ++ [byte]) [] (Or.inl ⟨rfl, rfl⟩)
              simpa [Nat.add_assoc] using rest
          | inside more low high =>
              have unfinished := leftover.partial_step stepped (by simp)
              have rest := @ih _ front _ (Or.inr unfinished)
              simpa using rest

/-- The scan of a whole string agrees with the recognizer. -/
theorem scanned_fromUtf8 (bytes : List UInt8) :
    Scanned bytes (run boundary bytes) (fromUtf8 bytes) :=
  @scanned_scan boundary [] [] bytes (Or.inl ⟨rfl, rfl⟩)

/-! ## Decoding -/

/-- The scalar values that a byte string encodes. -/
def decode (bytes : List UInt8) : Option (List Char) :=
  (ByteArray.mk bytes.toArray).utf8Decode?.map Array.toList

theorem mk_encode (chars : List Char) : ByteArray.mk (encode chars).toArray = chars.utf8Encode := by
  apply ByteArray.ext
  rw [List.utf8Encode, List.data_toByteArray]
  rfl

/-- Decoding reverses encoding and nothing else. -/
theorem decode_eq_some {bytes : List UInt8} {chars : List Char} :
    decode bytes = some chars ↔ bytes = encode chars := by
  constructor
  · intro decoded
    obtain ⟨found, here, rfl⟩ := Option.map_eq_some_iff.mp decoded
    have present : (ByteArray.mk bytes.toArray).utf8Decode?.isSome = true := by
      rw [here, Option.isSome_some]
    have same := @ByteArray.utf8Encode_get_utf8Decode? _ present
    simp only [here, Option.get_some, ← mk_encode, ByteArray.mk.injEq] at same
    exact (congrArg Array.toList same).symm
  · intro same
    subst same
    rw [decode, mk_encode, List.utf8Decode?_utf8Encode]
    rfl

end Utf8
