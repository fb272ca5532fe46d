import EdgeGateway.Library.IpAddress
import EdgeGateway.Library.Text
import Mathlib.Data.List.Basic

/-!
# Text forms that read back

A form writes values as text and reads them off the front of a text.  Forms are put together from
numbers, constant texts, pairs and lists; what has been written always reads back.
-/

namespace TextForm

/-- The character is a digit of a base of at most sixteen. -/
def isDigit (base : Nat) (character : Char) : Bool :=
  (IpAddress.toDigit base character).isSome

/-- A number in front of the text ends there, in whatever base. -/
def Ends (rest : List Char) : Prop :=
  ∀ character ∈ rest.head?, isDigit 16 character = false

theorem ends_cons {character : Char} (stop : isDigit 16 character = false) (rest : List Char) :
    Ends (character :: rest) := by
  rintro _ ⟨⟩
  exact stop

theorem toDigit_digitChar : ∀ base ≤ 16, ∀ digit < base,
    IpAddress.toDigit base (Nat.digitChar digit) = some digit := by
  decide

theorem isDigit_of_le {base : Nat} (small : base ≤ 16) {character : Char}
    (stop : isDigit 16 character = false) : isDigit base character = false := by
  unfold isDigit IpAddress.toDigit at *
  dsimp only at *
  rw [Option.isSome_eq_false_iff, Option.isNone_iff_eq_none, Option.filter_eq_none_iff] at *
  intro digit found
  have := stop digit found
  simp only [decide_eq_true_eq] at *
  omega

/-- The number that a list of digits writes. -/
def ofDigits (base value : Nat) (digits : List Char) : Nat :=
  digits.foldl
    (fun value character => value * base + (IpAddress.toDigit base character).getD 0) value

theorem toDigits_reads {base : Nat} (positive : 1 < base) (small : base ≤ 16) (number : Nat) :
    (∀ character ∈ Nat.toDigits base number, isDigit base character = true) ∧
      ofDigits base 0 (Nat.toDigits base number) = number := by
  induction number using Nat.base_induction base positive with
  | single digit below =>
      have read := toDigit_digitChar base small digit below
      rw [Nat.toDigits_of_lt_base below]
      simp [isDigit, ofDigits, read]
  | digit number digit below more ih =>
      have read := toDigit_digitChar base small digit below
      rw [← Nat.toDigits_append_toDigits positive more below, Nat.toDigits_of_lt_base below]
      constructor
      · intro character member
        rcases List.mem_append.mp member with front | last
        · exact ih.1 character front
        · rw [List.mem_singleton.mp last, isDigit, read, Option.isSome_some]
      · have front : (Nat.toDigits base number).foldl _ 0 = number := ih.2
        rw [ofDigits, List.foldl_append, front]
        simp [read, Nat.mul_comm]

/-- A way to write values, and to read them off the front of a text. -/
structure Form (Value : Type) where
  write : Value → List Char
  read : List Char → Option (Value × List Char)
  read_write : ∀ value {rest}, Ends rest → read (write value ++ rest) = some (value, rest)

/-- Take a constant text off the front. -/
def skip (text input : List Char) : Option (List Char) :=
  input.dropPrefix? text

theorem skip_append (text rest : List Char) : skip text (text ++ rest) = some rest :=
  List.dropPrefix?_eq_some_iff.mpr ⟨text, rfl, by simp⟩

namespace Form

variable {Value Other : Type}

/-- The digits of a number. -/
def number (base : Nat) (positive : 1 < base) (small : base ≤ 16) : Form Nat where
  write := Nat.toDigits base
  read input :=
    if input.takeWhile (isDigit base) = [] then none
    else some (ofDigits base 0 (input.takeWhile (isDigit base)), input.dropWhile (isDigit base))
  read_write value rest ends := by
    obtain ⟨digits, reads⟩ := toDigits_reads positive small value
    have none_left : rest.takeWhile (isDigit base) = [] ∧ rest.dropWhile (isDigit base) = rest := by
      cases rest with
      | nil => exact ⟨rfl, rfl⟩
      | cons character rest => simp [isDigit_of_le small (ends character rfl)]
    rw [List.takeWhile_append_of_pos digits, List.dropWhile_append_of_pos digits, none_left.1,
      none_left.2, List.append_nil, if_neg Nat.toDigits_ne_nil, reads]

/-- The text behind the digits of a number. -/
theorem dropWhile_number {base : Nat} (positive : 1 < base) (small : base ≤ 16) (value : Nat)
    {rest : List Char} (ends : Ends rest) :
    ((number base positive small).write value ++ rest).dropWhile (isDigit 16) = rest := by
  have digits : ∀ character ∈ Nat.toDigits base value, isDigit 16 character = true := by
    intro character member
    by_contra stop
    have digit := (toDigits_reads positive small value).1 character member
    rw [isDigit_of_le small (Bool.eq_false_iff.mpr stop)] at digit
    cases digit
  rw [number, List.dropWhile_append_of_pos digits]
  cases rest with
  | nil => rfl
  | cons character rest => simp [ends character rfl]

/-- A value written as one of another form. -/
def writtenAs (form : Form Value) (image : Other → Value) (preimage : Value → Option Other)
    (preimage_image : ∀ other, preimage (image other) = some other) : Form Other where
  write other := form.write (image other)
  read input := (form.read input).bind fun (value, rest) =>
    (preimage value).map fun other => (other, rest)
  read_write other rest ends := by
    rw [form.read_write (image other) ends, Option.bind_some]
    dsimp only
    rw [preimage_image, Option.map_some]

/-- Two kinds of values that their texts tell apart. -/
def either (left : Form Value) (right : Form Other) (isLeft : List Char → Bool)
    (left_isLeft : ∀ value rest, Ends rest → isLeft (left.write value ++ rest) = true)
    (right_isLeft : ∀ other rest, Ends rest → isLeft (right.write other ++ rest) = false) :
    Form (Value ⊕ Other) where
  write
    | .inl value => left.write value
    | .inr other => right.write other
  read input :=
    if isLeft input then (left.read input).map fun (value, rest) => (.inl value, rest)
    else (right.read input).map fun (other, rest) => (.inr other, rest)
  read_write values rest ends := by
    cases values with
    | inl value => rw [if_pos (left_isLeft value rest ends), left.read_write value ends,
        Option.map_some]
    | inr other =>
        have other_kind : ¬ isLeft (right.write other ++ rest) = true := by
          rw [right_isLeft other rest ends]
          exact Bool.false_ne_true
        rw [if_neg other_kind, right.read_write other ends, Option.map_some]

/-- A constant text in front. -/
def after (text : List Char) (form : Form Value) : Form Value where
  write value := text ++ form.write value
  read input := (skip text input).bind form.read
  read_write value rest ends := by
    rw [List.append_assoc, skip_append, Option.bind_some, form.read_write value ends]

/-- Two values, one after the other; the text of the second one starts with no digit. -/
def pair (left : Form Value) (right : Form Other)
    (stops : ∀ other rest, Ends (right.write other ++ rest)) : Form (Value × Other) where
  write values := left.write values.1 ++ right.write values.2
  read input := (left.read input).bind fun (value, rest) =>
    (right.read rest).map fun (other, rest) => ((value, other), rest)
  read_write values rest ends := by
    rw [List.append_assoc, left.read_write values.1 (stops values.2 rest), Option.bind_some]
    dsimp only
    rw [right.read_write values.2 ends, Option.map_some]

/-- A value between two constant texts, the second of which starts with no digit. -/
def enclosed (opening : List Char) (form : Form Value) (first : Char) (closing : List Char)
    (stop : isDigit 16 first = false) : Form Value where
  write value := opening ++ (form.write value ++ first :: closing)
  read input := (skip opening input).bind fun input =>
    (form.read input).bind fun (value, rest) =>
      (skip (first :: closing) rest).map fun rest => (value, rest)
  read_write value rest _ := by
    have ends : Ends ((first :: closing) ++ rest) := ends_cons stop _
    rw [List.append_assoc, skip_append, Option.bind_some, List.append_assoc,
      form.read_write value ends, Option.bind_some]
    dsimp only
    rw [skip_append, Option.map_some]

/-- A text in quotes that has none of its own. -/
def quoted : Form { text : List Char // '"' ∉ text } where
  write text := '"' :: (text.val ++ ['"'])
  read input := (skip ['"'] input).bind fun input =>
    (Text.splitOnce '"' input).bind fun parts =>
      if plain : '"' ∉ parts.1 then some (⟨parts.1, plain⟩, parts.2) else none
  read_write text rest _ := by
    have opened : skip ['"'] ('"' :: (text.val ++ ['"']) ++ rest) =
        some (text.val ++ '"' :: rest) := by
      rw [List.cons_append, List.append_assoc]
      exact skip_append ['"'] _
    rw [opened, Option.bind_some, Text.splitOnce_append text.property, Option.bind_some,
      dif_pos text.property]

/-! ## Lists -/

/-- The items of a list but the first, each behind a comma, and the end of the list. -/
def readItems (form : Form Value) : Nat → List Char → Option (List Value × List Char)
  | _, ']' :: rest => some ([], rest)
  | fuel + 1, ',' :: input =>
      (form.read input).bind fun (value, rest) =>
        (readItems form fuel rest).map fun (values, rest) => (value :: values, rest)
  | _, _ => none

def writeItems (form : Form Value) (values : List Value) : List Char :=
  values.flatMap fun value => ',' :: form.write value

theorem ends_writeItems (form : Form Value) (values : List Value) (rest : List Char) :
    Ends (writeItems form values ++ ']' :: rest) := by
  cases values with
  | nil => exact ends_cons rfl _
  | cons value values => exact ends_cons rfl _

theorem readItems_writeItems (form : Form Value) (values : List Value) {fuel : Nat}
    (enough : values.length ≤ fuel) (rest : List Char) :
    readItems form fuel (writeItems form values ++ ']' :: rest) = some (values, rest) := by
  induction values generalizing fuel with
  | nil => cases fuel <;> rfl
  | cons value values ih =>
      cases fuel with
      | zero => cases enough
      | succ fuel =>
          rw [writeItems, List.flatMap_cons, ← writeItems, List.append_assoc, List.cons_append,
            readItems, form.read_write value (ends_writeItems form values rest), Option.bind_some]
          dsimp only
          rw [ih (Nat.le_of_succ_le_succ enough), Option.map_some]

theorem length_le_writeItems (form : Form Value) (values : List Value) :
    values.length ≤ (writeItems form values).length := by
  induction values with
  | nil => exact Nat.zero_le _
  | cons value values ih =>
      rw [writeItems, List.flatMap_cons, ← writeItems, List.length_append, List.length_cons,
        List.length_cons]
      omega

def writeList (form : Form Value) : List Value → List Char
  | [] => ['[', ']']
  | value :: values => '[' :: (form.write value ++ (writeItems form values ++ [']']))

/-- A list in brackets; what follows bounds the number of its items. -/
def readList (form : Form Value) : List Char → Option (List Value × List Char)
  | '[' :: ']' :: rest => some ([], rest)
  | '[' :: input =>
      (form.read input).bind fun (value, rest) =>
        (readItems form rest.length rest).map fun (values, rest) => (value :: values, rest)
  | _ => none

/-- A list in brackets; no item starts with the closing one. -/
def list (form : Form Value)
    (opens : ∀ value rest, (form.write value ++ rest).head? ≠ some ']') : Form (List Value) where
  write := writeList form
  read := readList form
  read_write values rest _ := by
    cases values with
    | nil => rfl
    | cons value values =>
        have enough : values.length ≤ (writeItems form values ++ ']' :: rest).length := by
          have := length_le_writeItems form values
          rw [List.length_append]
          omega
        rw [writeList, List.cons_append, List.append_assoc, List.append_assoc,
          List.singleton_append, readList, form.read_write value (ends_writeItems form values rest),
          Option.bind_some]
        · dsimp only
          rw [readItems_writeItems form values enough, Option.map_some]
        · intro closed same
          exact opens value _ (congrArg List.head? same)

end Form

end TextForm
