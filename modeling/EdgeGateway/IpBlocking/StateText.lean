import EdgeGateway.IpBlocking.Persistence
import EdgeGateway.Library.TextForm
import EdgeGateway.Library.Utf8

/-!
# The text of a state file

A state file is an object without blanks, and its records keep the order of their fields.  An
address of version 6 has all of its groups.
-/

namespace EdgeGateway.IpBlocking

open IpAddress Security TextForm

/-! ## Addresses -/

def decimal : Form Nat := .number 10 (by decide) (by decide)

def hexadecimal : Form Nat := .number 16 (by decide) (by decide)

/-- A number, and what follows it behind a separator. -/
def separated {Rest : Type} (number : Form Nat) (separator : Char)
    (stop : isDigit 16 separator = false) (rest : Form Rest) : Form (Nat × Rest) :=
  number.pair (rest.after [separator]) fun _ _ => ends_cons stop _

/-- Four octets, the most significant one first. -/
def octets : Form (Nat × Nat × Nat × Nat) :=
  separated decimal '.' rfl (separated decimal '.' rfl (separated decimal '.' rfl decimal))

def ipv4 : Form (BitVec 32) :=
  octets.writtenAs
    (fun bits => (bits.toNat / 2 ^ 24, bits.toNat / 2 ^ 16 % 256, bits.toNat / 2 ^ 8 % 256,
      bits.toNat % 256))
    (fun (first, second, third, fourth) =>
      some (BitVec.ofNat 32 (((first * 256 + second) * 256 + third) * 256 + fourth)))
    (by
      intro bits
      have := bits.isLt
      rw [Option.some.injEq]
      apply BitVec.eq_of_toNat_eq
      rw [BitVec.toNat_ofNat]
      omega)

/-- Eight groups, the most significant one first. -/
def groups : Form (Nat × Nat × Nat × Nat × Nat × Nat × Nat × Nat) :=
  let colon {Rest : Type} (rest : Form Rest) := separated hexadecimal ':' rfl rest
  colon (colon (colon (colon (colon (colon (colon hexadecimal))))))

def ipv6 : Form (BitVec 128) :=
  groups.writtenAs
    (fun bits => (bits.toNat / 2 ^ 112, bits.toNat / 2 ^ 96 % 65536, bits.toNat / 2 ^ 80 % 65536,
      bits.toNat / 2 ^ 64 % 65536, bits.toNat / 2 ^ 48 % 65536, bits.toNat / 2 ^ 32 % 65536,
      bits.toNat / 2 ^ 16 % 65536, bits.toNat % 65536))
    (fun (first, second, third, fourth, fifth, sixth, seventh, eighth) =>
      some (BitVec.ofNat 128 (ofGroups [first, second, third, fourth, fifth, sixth, seventh,
        eighth])))
    (by
      intro bits
      have := bits.isLt
      rw [Option.some.injEq]
      apply BitVec.eq_of_toNat_eq
      rw [BitVec.toNat_ofNat]
      simp only [ofGroups, List.foldl_cons, List.foldl_nil]
      omega)

/-- The text starts with a number and a dot. -/
def dotted (text : List Char) : Bool :=
  (text.dropWhile (isDigit 16)).head? == some '.'

/-- What separates two numbers follows the first one. -/
theorem dotted_separated {Rest : Type} {base : Nat} {positive : 1 < base} {small : base ≤ 16}
    {separator : Char} (stop : isDigit 16 separator = false) {rest : Form Rest}
    (values : Nat × Rest) (behind : List Char) :
    dotted ((separated (.number base positive small) separator stop rest).write values ++ behind) =
      (separator == '.') := by
  have ends : Ends (separator :: (rest.write values.2 ++ behind)) := ends_cons stop _
  have dropped := Form.dropWhile_number positive small values.1 ends
  have text : (separated (.number base positive small) separator stop rest).write values ++ behind =
      (Form.number base positive small).write values.1 ++
        separator :: (rest.write values.2 ++ behind) :=
    List.append_assoc _ _ _
  rw [dotted, text, dropped, List.head?_cons]
  rfl

/-- An address in quotes. -/
def addressText : Form IpAddr :=
  let either := Form.either ipv4 ipv6 dotted
    (fun _ behind _ => dotted_separated rfl _ behind)
    (fun _ behind _ => dotted_separated rfl _ behind)
  (either.enclosed ['"'] '"' [] rfl).writtenAs
    (fun | .v4 bits => .inl bits | .v6 bits => .inr bits)
    (fun | .inl bits => some (.v4 bits) | .inr bits => some (.v6 bits))
    (by rintro (bits | bits) <;> rfl)

/-! ## Records -/

def word : Form Machine.Word :=
  decimal.writtenAs (fun word => word.val)
    (fun number => if fits : number < Machine.wordSize then some ⟨number, fits⟩ else none)
    (fun word => dif_pos word.isLt)

/-- The name of a rule. -/
def ViolationRule.text : ViolationRule → String
  | .invalidWebsocket => "invalid_websocket"
  | .invalidGrpc => "invalid_grpc"
  | .sizeViolation => "size_violation"
  | .namespaceScan => "namespace_scan"

def rules : List ViolationRule :=
  [.invalidWebsocket, .invalidGrpc, .sizeViolation, .namespaceScan]

def ruleText : Form ViolationRule :=
  Form.quoted.writtenAs
    (fun rule => ⟨rule.text.toList, by cases rule <;> decide⟩)
    (fun text => rules.find? fun rule => rule.text.toList == text.val)
    (by rintro (_ | _) <;> decide)

/-- A field behind its name; the name of a field but the first has a comma in front. -/
def field {Value : Type} (name : String) (form : Form Value) : Form Value :=
  form.after (name.toList ++ ['"', ':'])

def nextField {First Value : Type} (first : Form First) (name : String) (form : Form Value) :
    Form (First × Value) :=
  first.pair (form.after (',' :: '"' :: (name.toList ++ ['"', ':']))) fun _ _ => ends_cons rfl _

def recordText : Form BlockRecord :=
  let fields := nextField (nextField (nextField (nextField
      (field "client_ip" addressText)
      "created_at_unix_seconds" word)
      "expires_at_unix_seconds" word)
      "rule" ruleText)
      "observed_count" decimal
  (fields.enclosed ['{', '"'] '}' [] rfl).writtenAs
    (fun record => ((((record.clientIp, record.createdAtUnixSeconds), record.expiresAtUnixSeconds),
      record.rule), record.observedCount))
    (fun ((((clientIp, created), expires), rule), count) =>
      some ⟨clientIp, created, expires, rule, count⟩)
    (fun _ => rfl)

def fileText : Form BlockFile :=
  let fields := nextField (field "version" decimal) "blocks"
    (recordText.list fun _ _ => show some '{' ≠ some ']' by decide)
  (fields.enclosed ['{', '"'] '}' [] rfl).writtenAs
    (fun file => (file.version, file.blocks))
    (fun (version, blocks) => some ⟨version, blocks⟩)
    (fun _ => rfl)

/-- State files as they are written. -/
def stateText : StateCodec where
  encode file := Utf8.encode (fileText.write file)
  decode bytes := do
    let text ← bytes.toByteArray.utf8Decode?
    match fileText.read text.toList with
    | some (file, []) => some file
    | _ => none
  decode_encode file := by
    have encoded : (Utf8.encode (fileText.write file)).toByteArray =
        (fileText.write file).utf8Encode := rfl
    have reads := fileText.read_write file (show Ends [] by rintro _ ⟨⟩)
    rw [List.append_nil] at reads
    rw [encoded, List.utf8Decode?_utf8Encode]
    simp [reads]

end EdgeGateway.IpBlocking
