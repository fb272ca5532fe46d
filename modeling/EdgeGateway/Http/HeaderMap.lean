import EdgeGateway.Library.MachineInteger
import EdgeGateway.Library.Multimap
import EdgeGateway.Library.Text
import EdgeGateway.Library.Utf8

/-!
# Header maps

Header names are kept in lower case, so that names compare as texts.  A map has the values of each
name in order; the order between names carries no meaning.
-/

namespace EdgeGateway.Http

/-! ## Names -/

/-- The characters of a header name in lower case. -/
def isNameCharacter (character : Char) : Bool :=
  ('a' ≤ character && character ≤ 'z') || ('0' ≤ character && character ≤ '9') ||
    "!#$%&'*+-.^_`|~".toList.contains character

/-- Text that names a header. -/
def isHeaderName (text : List Char) : Bool :=
  !text.isEmpty && decide (text.length ≤ 65535) && text.all isNameCharacter

/-- A header name. -/
structure HeaderName where
  text : String
  wellFormed : isHeaderName text.toList = true
deriving DecidableEq

theorem HeaderName.text_injective : Function.Injective HeaderName.text := by
  rintro ⟨text, _⟩ ⟨_, _⟩ rfl
  rfl

/-- Read a header name, in any case. -/
def HeaderName.fromBytes (text : List Char) : Option HeaderName :=
  let lowered := String.ofList (text.map Char.toLower)
  if wellFormed : isHeaderName lowered.toList = true then some ⟨lowered, wellFormed⟩ else none

/-- The name starts with a text. -/
def HeaderName.startsWith (name : HeaderName) (start : String) : Bool :=
  start.toList.isPrefixOf name.text.toList

/-! ## Values -/

/-- The bytes of a header value. -/
def isValueByte (byte : UInt8) : Bool :=
  (0x20 ≤ byte && byte != 0x7F) || byte == 0x09

/-- A byte that has a text. -/
def isVisibleAscii (byte : UInt8) : Bool :=
  (0x20 ≤ byte && byte < 0x7F) || byte == 0x09

/-- A header value. -/
structure HeaderValue where
  bytes : List UInt8
  wellFormed : bytes.all isValueByte = true
deriving DecidableEq

/-- The text of ASCII bytes. -/
def asciiText (bytes : List UInt8) : String :=
  String.ofList (bytes.map fun byte => Char.ofNat byte.toNat)

/-- The text of a value, when all of it is visible ASCII. -/
def HeaderValue.toStr (value : HeaderValue) : Option String :=
  if value.bytes.all isVisibleAscii then some (asciiText value.bytes) else none

/-- The value that a text writes. -/
def HeaderValue.fromStr (text : String) : Option HeaderValue :=
  let bytes := Utf8.encode text.toList
  if wellFormed : bytes.all isValueByte = true then some ⟨bytes, wellFormed⟩ else none

theorem isValueByte_of_isVisibleAscii {byte : UInt8} (visible : isVisibleAscii byte = true) :
    isValueByte byte = true := by
  simp only [isVisibleAscii, isValueByte, Bool.or_eq_true, Bool.and_eq_true,
    decide_eq_true_eq, bne_iff_ne, beq_iff_eq] at visible ⊢
  refine visible.imp_left fun bounds => ⟨bounds.1, ?_⟩
  rintro rfl
  exact absurd bounds.2 (by decide)

theorem asciiText_map {chars : List Char} (ascii : ∀ character ∈ chars, character.toNat < 0x80) :
    asciiText (chars.map fun character => character.toNat.toUInt8) = String.ofList chars := by
  rw [asciiText, List.map_map]
  congr 1
  refine (List.map_congr_left ?_).trans (List.map_id _)
  intro character member
  have small := ascii character member
  have byte_toNat : character.toNat.toUInt8.toNat = character.toNat := by
    simp only [Nat.toUInt8, UInt8.toNat_ofNat']
    omega
  simp [byte_toNat]

/-- A text without control characters writes a value that reads back as the text. -/
theorem HeaderValue.toStr_fromStr {text : String}
    (visible : ∀ character ∈ text.toList, 0x20 ≤ character.toNat ∧ character.toNat < 0x7F) :
    ∃ value, HeaderValue.fromStr text = some value ∧ value.toStr = some text := by
  have ascii : ∀ character ∈ text.toList, character.toNat < 0x80 :=
    fun character member => Nat.lt_trans (visible character member).2 (by decide)
  have shown : (Utf8.encode text.toList).all isVisibleAscii = true := by
    rw [Utf8.encode_ascii ascii, List.all_map, List.all_eq_true]
    intro character member
    have bounds := visible character member
    simp only [Function.comp_apply, isVisibleAscii, Bool.or_eq_true, Bool.and_eq_true,
      decide_eq_true_eq, UInt8.le_iff_toNat_le, UInt8.lt_iff_toNat_lt, Nat.toUInt8,
      UInt8.toNat_ofNat']
    exact .inl (by simp; omega)
  have admissible : (Utf8.encode text.toList).all isValueByte = true :=
    List.all_eq_true.mpr fun byte member =>
      isValueByte_of_isVisibleAscii (List.all_eq_true.mp shown byte member)
  have readBack : asciiText (Utf8.encode text.toList) = text := by
    rw [Utf8.encode_ascii ascii, asciiText_map ascii, String.ofList_toList]
  refine ⟨⟨Utf8.encode text.toList, admissible⟩, by simp [fromStr, admissible], ?_⟩
  simp [toStr, shown, readBack]

/-! ## Maps -/

/-- A header map. -/
abbrev HeaderMap := Multimap HeaderName HeaderValue

/-- The first value of a name. -/
def HeaderMap.get (headers : HeaderMap) (name : HeaderName) : Option HeaderValue :=
  (headers.getAll name).head?

/-! ## Sizes -/

/-- What one header takes of a limit. -/
def headerCost (entry : HeaderName × HeaderValue) : Nat :=
  (Utf8.encode entry.1.text.toList).length + entry.2.bytes.length + 32

/-- What all headers take of a limit, in machine arithmetic. -/
def headerBytes (headers : HeaderMap) : Nat :=
  headers.foldl
    (fun total entry =>
      Machine.saturatingAdd
        (Machine.saturatingAdd
          (Machine.saturatingAdd total (Utf8.encode entry.1.text.toList).length)
          entry.2.bytes.length)
        32)
    0

theorem headerBytes_eq (headers : HeaderMap) :
    headerBytes headers = min (headers.map headerCost).sum (Machine.wordSize - 1) := by
  have from_total (total : Nat) :
      headers.foldl
        (fun total entry =>
          Machine.saturatingAdd
            (Machine.saturatingAdd
              (Machine.saturatingAdd total (Utf8.encode entry.1.text.toList).length)
              entry.2.bytes.length)
            32)
        (min total (Machine.wordSize - 1)) =
      min (total + (headers.map headerCost).sum) (Machine.wordSize - 1) := by
    induction headers generalizing total with
    | nil => rfl
    | cons entry headers ih =>
        rw [List.foldl_cons, Machine.saturatingAdd_min, Machine.saturatingAdd_min,
          Machine.saturatingAdd_min, ih, List.map_cons, List.sum_cons, headerCost]
        congr 1
        omega
  have whole := from_total 0
  rw [Nat.zero_min, Nat.zero_add] at whole
  exact whole

end EdgeGateway.Http
