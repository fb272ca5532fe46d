import EdgeGateway.Library.PercentEncoding
import EdgeGateway.Library.Results
import EdgeGateway.Library.Splitting
import EdgeGateway.Library.Utf8

/-!
# Admission of request paths

`validateHttpPath` rejects every path whose percent encoding could hide a separator, a dot segment
or a control byte.  A backend that decodes an accepted path, once or twice, therefore sees the
segments that the gateway matched.
-/

namespace EdgeGateway.HttpProxy

open PercentEncoding

/-- The path separator. -/
def slash : UInt8 := 0x2F

/-- The backslash, which some backends read as a separator. -/
def backslash : UInt8 := 0x5C

/-- The dot of the segments `.` and `..`. -/
def dot : UInt8 := 0x2E

/-- ASCII letters and digits. -/
def isAsciiAlphanumeric (byte : UInt8) : Bool :=
  (0x30 ≤ byte && byte ≤ 0x39) || (0x41 ≤ byte && byte ≤ 0x5A) || (0x61 ≤ byte && byte ≤ 0x7A)

/-- Values that must not be written as a triplet: they could alias another path after decoding. -/
def isForbiddenEncoding (value : UInt8) : Bool :=
  value == slash || value == backslash || value == percent || isAsciiAlphanumeric value ||
    value == 0x2D || value == dot || value == 0x5F || value == 0x7E || value < 0x20 || value == 0x7F

/-- Scan the percent encoding of one segment. -/
def validateSegmentEncoding : List UInt8 → Except String Unit
  | [] => .ok ()
  | byte :: rest =>
      if byte = percent then
        match rest with
        | second :: third :: rest =>
            match hexDigit second, hexDigit third with
            | some high, some low =>
                if isForbiddenEncoding (tripletValue high low) then
                  .error <| "encoded path separators/unreserved/control/double encoding " ++
                    "are not supported"
                else
                  validateSegmentEncoding rest
            | _, _ => .error "invalid percent encoding"
        | _ => .error "invalid percent encoding"
      else
        validateSegmentEncoding rest

/-- Check one segment of a path. -/
def validateSegment (segment : List UInt8) : Except String Unit :=
  if segment = [dot] ∨ segment = [dot, dot] then
    .error "dot segments are not supported"
  else
    validateSegmentEncoding segment

/-- The checks of a path, on its bytes. -/
def validatePathBytes (path : List UInt8) : Except String Unit :=
  if path.head? ≠ some slash ∨ 8192 < path.length ∨
      path.any (fun byte => byte == 0x3F || byte == 0x23 || byte == backslash) ∨
      path.any (fun byte => byte ≤ 0x20 || byte == 0x7F) then
    .error "invalid HTTP path"
  else if [slash, slash] <:+: path then
    .error "repeated path separators are not supported"
  else
    (path.splitOn slash).forM validateSegment

/-- No decoding before matching: reject traversal and separator aliases. -/
def validateHttpPath (path : String) : Except String Unit :=
  validatePathBytes (Utf8.encode path.toList)

/-- What `validateHttpPath` accepts: the bytes and segments of an admitted path. -/
structure AdmittedPath (path : List UInt8) : Prop where
  rooted : path.head? = some slash
  short : path.length ≤ 8192
  plain : ∀ byte ∈ path, byte ≠ 0x3F ∧ byte ≠ 0x23 ∧ byte ≠ backslash ∧ 0x20 < byte ∧ byte ≠ 0x7F
  single : ¬[slash, slash] <:+: path
  undotted : ∀ segment ∈ path.splitOn slash, segment ≠ [dot] ∧ segment ≠ [dot, dot]
  encoded : ∀ segment ∈ path.splitOn slash,
    Encoded (fun value => isForbiddenEncoding value = false) segment

theorem encoded_of_validateSegmentEncoding (segment : List UInt8) :
    validateSegmentEncoding segment = .ok () →
      Encoded (fun value => isForbiddenEncoding value = false) segment := by
  fun_induction validateSegmentEncoding segment with
  | case1 => exact fun _ => .nil
  | case2 => intro rejected; cases rejected
  | case3 second third rest high low low_eq high_eq allowed ih =>
      exact fun accepted => .triplet high_eq low_eq (by simpa using allowed) (ih accepted)
  | case4 => intro rejected; cases rejected
  | case5 => intro rejected; cases rejected
  | case6 byte rest plain ih => exact fun accepted => .raw plain (ih accepted)

theorem validateSegment_eq_ok {segment : List UInt8} (accepted : validateSegment segment = .ok ()) :
    (segment ≠ [dot] ∧ segment ≠ [dot, dot]) ∧
      Encoded (fun value => isForbiddenEncoding value = false) segment := by
  rw [validateSegment] at accepted
  split_ifs at accepted with dotted
  exact ⟨not_or.mp dotted, encoded_of_validateSegmentEncoding segment accepted⟩

theorem admitted_of_validatePathBytes {path : List UInt8}
    (accepted : validatePathBytes path = .ok ()) : AdmittedPath path := by
  rw [validatePathBytes] at accepted
  split_ifs at accepted with malformed repeated
  rw [Results.forM_eq_ok] at accepted
  simp only [not_or, not_not, not_lt, Bool.not_eq_true, List.any_eq_false] at malformed
  obtain ⟨rooted, short, unreserved, visible⟩ := malformed
  refine ⟨rooted, short, fun byte member => ?_, repeated,
    fun segment member => (validateSegment_eq_ok (accepted segment member)).1,
    fun segment member => (validateSegment_eq_ok (accepted segment member)).2⟩
  have reserved := unreserved byte member
  have printable := visible byte member
  simp only [Bool.or_eq_false_iff, beq_eq_false_iff_ne, decide_eq_false_iff_not]
    at reserved printable
  exact ⟨reserved.1.1, reserved.1.2, reserved.2, by simpa using printable.1, printable.2⟩

theorem validateSegmentEncoding_of_encoded {segment : List UInt8}
    (encoded : Encoded (fun value => isForbiddenEncoding value = false) segment) :
    validateSegmentEncoding segment = .ok () := by
  induction encoded with
  | nil => rfl
  | raw plain _ ih =>
      unfold validateSegmentEncoding
      rw [if_neg plain, ih]
  | triplet high_eq low_eq allowed _ ih =>
      simp only [validateSegmentEncoding, if_pos, high_eq, low_eq, allowed, ih]
      rfl

/-- Admitted paths are exactly the accepted ones. -/
theorem validatePathBytes_eq_ok {path : List UInt8} :
    validatePathBytes path = .ok () ↔ AdmittedPath path := by
  refine ⟨admitted_of_validatePathBytes, fun admitted => ?_⟩
  have reserved : path.any (fun byte => byte == 0x3F || byte == 0x23 || byte == backslash) =
      false := by
    rw [List.any_eq_false]
    intro byte member
    obtain ⟨question, hash, back, _⟩ := admitted.plain byte member
    simp [question, hash, back]
  have visible : path.any (fun byte => byte ≤ 0x20 || byte == 0x7F) = false := by
    rw [List.any_eq_false]
    intro byte member
    obtain ⟨_, _, _, graphic, delete⟩ := admitted.plain byte member
    simp [UInt8.not_le.mpr graphic, delete]
  rw [validatePathBytes, admitted.rooted, reserved, visible,
    if_neg (by simpa using admitted.short), if_neg admitted.single, Results.forM_eq_ok]
  intro segment member
  obtain ⟨one, two⟩ := admitted.undotted segment member
  rw [validateSegment, if_neg (not_or.mpr ⟨one, two⟩)]
  exact validateSegmentEncoding_of_encoded (admitted.encoded segment member)

/-- An accepted path starts with a slash. -/
theorem rooted_of_validateHttpPath {path : String} (accepted : validateHttpPath path = .ok ()) :
    path.toList.head? = some '/' :=
  (Utf8.head?_encode (by decide)).mp (admitted_of_validatePathBytes accepted).rooted

/-- A segment without triplets is encoded. -/
theorem encoded_of_unencoded {permitted : UInt8 → Prop} {segment : List UInt8}
    (unencoded : percent ∉ segment) : Encoded permitted segment := by
  induction segment with
  | nil => exact .nil
  | cons byte rest ih =>
      rw [List.mem_cons, not_or] at unencoded
      exact .raw (Ne.symm unencoded.1) (ih unencoded.2)

/-- A path without triplets is accepted when its bytes are plain and its segments are neither
dots nor, but for the first and the last one, empty. -/
theorem validatePathBytes_of_unencoded {path : List UInt8} (rooted : path.head? = some slash)
    (short : path.length ≤ 8192)
    (plain : ∀ byte ∈ path,
      byte ≠ 0x3F ∧ byte ≠ 0x23 ∧ byte ≠ backslash ∧ 0x20 < byte ∧ byte ≠ 0x7F)
    (nonempty : [] ∉ (path.splitOn slash).tail.dropLast)
    (segments : ∀ segment ∈ path.splitOn slash,
      segment ≠ [dot] ∧ segment ≠ [dot, dot] ∧ percent ∉ segment) :
    validatePathBytes path = .ok () := by
  apply validatePathBytes_eq_ok.mpr
  refine ⟨rooted, short, plain, ?_, ?_, ?_⟩
  · exact fun repeated => nonempty (Splitting.empty_inner_of_repeated repeated)
  · exact fun segment member => ⟨(segments segment member).1, (segments segment member).2.1⟩
  · exact fun segment member => encoded_of_unencoded (segments segment member).2.2

/-! ## Decoding an admitted path -/

namespace AdmittedPath

variable {path : List UInt8}

/-- The whole path is encoded, since a separator is a plain byte. -/
theorem encoded_whole (admitted : AdmittedPath path) :
    Encoded (fun value => isForbiddenEncoding value = false) path := by
  have joined := @Encoded.intercalate _ slash (by decide) _ admitted.encoded
  rwa [List.intercalate_splitOn] at joined

theorem splitOn_decode (admitted : AdmittedPath path) :
    (percentDecode path).splitOn slash = (path.splitOn slash).map percentDecode :=
  admitted.encoded_whole.splitOn_decode (by decide) (by decide) (by decide)

/-- Decoding reveals no separator alias, percent sign or control byte. -/
theorem decoded_byte (admitted : AdmittedPath path) {byte : UInt8}
    (member : byte ∈ percentDecode path) :
    byte ≠ backslash ∧ byte ≠ percent ∧ 0x20 ≤ byte ∧ byte ≠ 0x7F := by
  rcases admitted.encoded_whole.mem_decode member with ⟨written, ne⟩ | allowed
  · obtain ⟨_, _, plain, visible, printable⟩ := admitted.plain byte written
    exact ⟨plain, ne, UInt8.le_of_lt visible, printable⟩
  · simp only [isForbiddenEncoding, Bool.or_eq_false_iff, beq_eq_false_iff_ne,
      decide_eq_false_iff_not] at allowed
    obtain ⟨⟨⟨⟨⟨⟨⟨⟨⟨_, plain⟩, ne⟩, _⟩, _⟩, _⟩, _⟩, _⟩, visible⟩, printable⟩ := allowed
    exact ⟨plain, ne, by simpa using visible, printable⟩

/-- A segment whose decoding consists of dots, or of nothing, is written as it decodes. -/
theorem decoded_dots {segment : List UInt8} (admitted : AdmittedPath path)
    (member : segment ∈ path.splitOn slash) (dots : ∀ byte ∈ percentDecode segment, byte = dot) :
    percentDecode segment = segment := by
  apply (admitted.encoded segment member).decode_eq_self
  intro byte decoded
  rw [dots byte decoded]
  decide

theorem decoded_undotted {segment : List UInt8} (admitted : AdmittedPath path)
    (member : segment ∈ (percentDecode path).splitOn slash) :
    segment ≠ [dot] ∧ segment ≠ [dot, dot] := by
  rw [admitted.splitOn_decode, List.mem_map] at member
  obtain ⟨source, sourceMember, rfl⟩ := member
  obtain ⟨single, double⟩ := admitted.undotted source sourceMember
  constructor
  · intro decoded
    apply single
    rw [← decoded, admitted.decoded_dots sourceMember (by simp [decoded])]
  · intro decoded
    apply double
    rw [← decoded, admitted.decoded_dots sourceMember (by simp [decoded])]

theorem decoded_nonempty_inner {segment : List UInt8} (admitted : AdmittedPath path)
    (member : segment ∈ ((percentDecode path).splitOn slash).tail.dropLast) : segment ≠ [] := by
  rintro rfl
  rw [admitted.splitOn_decode, ← List.map_tail, ← List.map_dropLast, List.mem_map] at member
  obtain ⟨source, inner, decoded⟩ := member
  have sourceMember : source ∈ path.splitOn slash :=
    List.mem_of_mem_tail (List.dropLast_subset _ inner)
  have written : source = [] := by
    rw [← admitted.decoded_dots sourceMember (by simp [decoded]), decoded]
  rw [written] at inner
  exact admitted.single (Splitting.repeated_of_empty_inner inner)

end AdmittedPath

/-- Percent-decoding cannot change the segment structure of an accepted path. -/
theorem decode_preserves_segments (path : String) (accepted : validateHttpPath path = .ok ()) :
    let bytes := Utf8.encode path.toList
    (percentDecode bytes).splitOn slash = (bytes.splitOn slash).map percentDecode ∧
    (∀ byte ∈ percentDecode bytes,
      byte ≠ backslash ∧ byte ≠ percent ∧ 0x20 ≤ byte ∧ byte ≠ 0x7F) ∧
    (∀ segment ∈ (percentDecode bytes).splitOn slash, segment ≠ [dot] ∧ segment ≠ [dot, dot]) ∧
    (∀ segment ∈ ((percentDecode bytes).splitOn slash).tail.dropLast, segment ≠ []) ∧
    percentDecode (percentDecode bytes) = percentDecode bytes ∧
    (∀ segment ∈ bytes.splitOn slash, ∀ front rest, segment = front ++ percent :: rest →
      ∃ second third tail, rest = second :: third :: tail ∧
        (hexDigit second).isSome ∧ (hexDigit third).isSome) := by
  intro bytes
  have admitted : AdmittedPath bytes := admitted_of_validatePathBytes accepted
  exact ⟨admitted.splitOn_decode, fun _ => admitted.decoded_byte,
    fun _ => admitted.decoded_undotted, fun _ => admitted.decoded_nonempty_inner,
    admitted.encoded_whole.decode_decode (by decide),
    fun segment member _ _ => (admitted.encoded segment member).digits_follow⟩

/-- A path with a raw non-ASCII character and an encoded space is accepted. -/
theorem decode_preserves_segments_of_space :
    validateHttpPath "/é/a%20b" = .ok () ∧
      percentDecode (percentDecode (Utf8.encode "/é/a%20b".toList)) =
        percentDecode (Utf8.encode "/é/a%20b".toList) :=
  ⟨by decide +kernel, (decode_preserves_segments "/é/a%20b" (by decide +kernel)).2.2.2.2.1⟩

end EdgeGateway.HttpProxy
