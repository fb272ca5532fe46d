import EdgeGateway.Http.HeaderMap
import EdgeGateway.Library.Splitting
import EdgeGateway.Library.Trimming

/-!
# The subprotocol that a backend selects

The client offers subprotocols as comma-separated lists under one or more headers, and the backend
may select one of them.  The gateway compares the selection with every element of every list, also
with the empty elements, which offer nothing.
-/

namespace EdgeGateway.Websocket

open Http Trimming

def secWebsocketProtocol : HeaderName := ⟨"sec-websocket-protocol", by decide⟩

/-- The whitespace of ASCII. -/
def isAsciiWhitespace (byte : UInt8) : Bool :=
  byte == 0x20 || byte == 0x09 || byte == 0x0A || byte == 0x0C || byte == 0x0D

def comma : UInt8 := 0x2C

/-- Drop the whitespace at the front, then that at the back. -/
def trimAsciiWhitespace (value : List UInt8) : List UInt8 :=
  trim isAsciiWhitespace value

/-- The backend's selection, which must have been offered. -/
def validateBackendSubprotocol (responseHeaders : HeaderMap)
    (offeredProtocols : List HeaderValue) : Except String (Option HeaderValue) :=
  match responseHeaders.getAll secWebsocketProtocol with
  | [] => .ok none
  | selected :: rest =>
      if rest ≠ [] ∨ comma ∈ selected.bytes then
        .error "WebSocket backend selected multiple subprotocols"
      else
        let isOffered := offeredProtocols.any fun offered =>
          (offered.bytes.splitOn comma).any fun token =>
            trimAsciiWhitespace token == selected.bytes
        if isOffered then .ok (some selected)
        else .error "WebSocket backend selected a subprotocol not offered downstream"

/-! ## What is offered -/

/-- Some element of the offered lists is these bytes, but for the whitespace around them. -/
def HasElement (offered : List HeaderValue) (bytes : List UInt8) : Prop :=
  ∃ value ∈ offered, ∃ token ∈ value.bytes.splitOn comma,
    Surrounded isAsciiWhitespace token bytes

/-- The client offers the subprotocol: an element of its lists that is not empty. -/
def Offers (offered : List HeaderValue) (protocol : HeaderValue) : Prop :=
  protocol.bytes ≠ [] ∧ HasElement offered protocol.bytes

/-- The backend selects one subprotocol, which the client has offered. -/
def Selects (response : HeaderMap) (offered : List HeaderValue) (protocol : HeaderValue) : Prop :=
  response.getAll secWebsocketProtocol = [protocol] ∧ Offers offered protocol

/-- The gateway accepts what the backend selects from the offer, and nothing else. -/
structure AcceptsSelection (response : HeaderMap) (offered : List HeaderValue) : Prop where
  selected : ∀ protocol, validateBackendSubprotocol response offered = .ok (some protocol) ↔
    Selects response offered protocol
  unselected : validateBackendSubprotocol response offered = .ok none ↔
    response.getAll secWebsocketProtocol = []
  refused : (∃ reason, validateBackendSubprotocol response offered = .error reason) ↔
    response.getAll secWebsocketProtocol ≠ [] ∧ ¬∃ protocol, Selects response offered protocol

/-- The backend selects the empty text, and the client's lists have an empty element. -/
def SelectsNothing (response : HeaderMap) (offered : List HeaderValue) : Prop :=
  ∃ protocol, response.getAll secWebsocketProtocol = [protocol] ∧ protocol.bytes = [] ∧
    HasElement offered []

variable {response : HeaderMap} {offered : List HeaderValue} {protocol : HeaderValue}

theorem any_element_iff {bytes : List UInt8} :
    (offered.any fun value => (value.bytes.splitOn comma).any fun token =>
      trimAsciiWhitespace token == bytes) = true ↔ HasElement offered bytes := by
  simp only [List.any_eq_true, beq_iff_eq, trimAsciiWhitespace, trim_eq_iff, HasElement]

/-- Elements of a list have no comma. -/
theorem HasElement.comma_notMem {bytes : List UInt8} (element : HasElement offered bytes) :
    comma ∉ bytes := by
  obtain ⟨value, _, token, part, surrounded⟩ := element
  obtain ⟨front, back, split, _⟩ := surrounded.split
  intro inside
  have within : comma ∈ token := by
    rw [split]
    exact List.mem_append_left _ (List.mem_append_right _ inside)
  exact Splitting.notMem_of_mem_splitOn part within

/-- What the gateway accepts: one value that is an element of the lists, empty or not. -/
theorem validate_eq_some :
    validateBackendSubprotocol response offered = .ok (some protocol) ↔
      response.getAll secWebsocketProtocol = [protocol] ∧ HasElement offered protocol.bytes := by
  unfold validateBackendSubprotocol
  cases values : response.getAll secWebsocketProtocol with
  | nil => simp
  | cons selected rest =>
      dsimp only
      constructor
      · intro accepted
        split_ifs at accepted with several element
        obtain ⟨single, _⟩ := not_or.mp several
        rw [Except.ok.injEq, Option.some.injEq] at accepted
        rw [← accepted, not_ne_iff.mp single]
        exact ⟨rfl, any_element_iff.mp element⟩
      · rintro ⟨single, element⟩
        obtain ⟨rfl, rfl⟩ := List.cons.inj single
        have one : ¬(([] : List HeaderValue) ≠ [] ∨ comma ∈ selected.bytes) :=
          not_or.mpr ⟨fun several => several rfl, element.comma_notMem⟩
        rw [if_neg one, if_pos (any_element_iff.mpr element)]

theorem validate_eq_none :
    validateBackendSubprotocol response offered = .ok none ↔
      response.getAll secWebsocketProtocol = [] := by
  unfold validateBackendSubprotocol
  cases response.getAll secWebsocketProtocol with
  | nil => simp
  | cons selected rest =>
      simp only [List.cons_ne_nil, iff_false]
      split_ifs
      all_goals exact nofun

/-- The gateway accepts exactly the selections from the offer, unless the backend selects the empty
text where the client's lists have an empty element. -/
theorem acceptsSelection_iff (response : HeaderMap) (offered : List HeaderValue) :
    AcceptsSelection response offered ↔ ¬SelectsNothing response offered := by
  constructor
  · rintro accepts ⟨protocol, single, empty, element⟩
    have accepted := validate_eq_some.mpr ⟨single, empty ▸ element⟩
    exact ((accepts.selected protocol).mp accepted).2.1 empty
  · intro something
    have selected (protocol : HeaderValue) :
        validateBackendSubprotocol response offered = .ok (some protocol) ↔
          Selects response offered protocol := by
      rw [validate_eq_some]
      constructor
      · rintro ⟨single, element⟩
        refine ⟨single, fun empty => something ?_, element⟩
        exact ⟨protocol, single, empty, empty ▸ element⟩
      · rintro ⟨single, _, element⟩
        exact ⟨single, element⟩
    refine ⟨selected, validate_eq_none, ?_⟩
    cases outcome : validateBackendSubprotocol response offered with
    | error reason =>
        have present : response.getAll secWebsocketProtocol ≠ [] := fun absent => by
          rw [validate_eq_none.mpr absent] at outcome
          cases outcome
        have unselected : ¬∃ protocol, Selects response offered protocol := by
          rintro ⟨protocol, selects⟩
          rw [(selected protocol).mpr selects] at outcome
          cases outcome
        exact ⟨fun _ => ⟨present, unselected⟩, fun _ => ⟨reason, rfl⟩⟩
    | ok selection =>
        refine ⟨nofun, fun ⟨present, unselected⟩ => ?_⟩
        cases selection with
        | none => exact absurd (validate_eq_none.mp outcome) present
        | some protocol => exact absurd ⟨protocol, (selected protocol).mp outcome⟩ unselected

/-- A list with an empty element, and a backend that selects the empty text. -/
theorem empty_selection_accepted :
    ¬AcceptsSelection [(secWebsocketProtocol, ⟨[], rfl⟩)]
      [⟨Utf8.encode "chat,,superchat".toList, by decide⟩] := by
  intro accepts
  have accepted : validateBackendSubprotocol [(secWebsocketProtocol, ⟨[], rfl⟩)]
      [⟨Utf8.encode "chat,,superchat".toList, by decide⟩] = .ok (some ⟨[], rfl⟩) := by
    decide
  exact ((accepts.selected ⟨[], rfl⟩).mp accepted).2.1 rfl

end EdgeGateway.Websocket
