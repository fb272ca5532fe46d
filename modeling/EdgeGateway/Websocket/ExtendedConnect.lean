import EdgeGateway.HttpProxy.Trailers
import EdgeGateway.Library.Channel

/-!
# The byte streams of an extended CONNECT

A websocket over HTTP/2 reads its bytes from the frames of the request body and writes them as
frames of the response body.  Reads are cut where the reader's destination ends, writes pass
through a bounded channel.  Neither direction loses, repeats or reorders a byte.
-/

namespace EdgeGateway.Websocket

open HttpProxy (Frame)

/-! ## Reading -/

/-- What a poll of the request body finds, up to its end. -/
inductive BodyPoll
  | pending
  | frame (frame : Frame)
  | failed (error : String)
deriving DecidableEq

/-- The reader of a request body, of which the polls to come are given. -/
structure ExtendedConnectReader where
  body : List BodyPoll
  buffered : List UInt8
deriving DecidableEq

def ExtendedConnectReader.new (body : List BodyPoll) : ExtendedConnectReader :=
  ⟨body, []⟩

/-- What a read reports, with the bytes that it has put into its destination. -/
abbrev ReadPoll := Poll (Except String (List UInt8))

/-- Copy what fits of the buffered bytes. -/
def copyBuffered (remaining : Nat) (reader : ExtendedConnectReader) :
    ReadPoll × ExtendedConnectReader :=
  let copyLen := min remaining reader.buffered.length
  (.ready (.ok (reader.buffered.take copyLen)),
    { reader with buffered := reader.buffered.drop copyLen })

/-- The loop of a read with room for some bytes. -/
def readLoop (remaining : Nat) : List UInt8 → List BodyPoll → ReadPoll × ExtendedConnectReader
  | byte :: buffered, body => copyBuffered remaining ⟨body, byte :: buffered⟩
  | [], [] => (.ready (.ok []), ⟨[], []⟩)
  | [], .pending :: body => (.pending, ⟨body, []⟩)
  | [], .failed error :: body => (.ready (.error error), ⟨body, []⟩)
  | [], .frame (.data bytes) :: body => readLoop remaining bytes body
  -- HTTP/2 trailers do not carry WebSocket bytes.
  | [], .frame (.trailers _) :: body => readLoop remaining [] body

def pollRead (reader : ExtendedConnectReader) (remaining : Nat) :
    ReadPoll × ExtendedConnectReader :=
  if remaining = 0 then (.ready (.ok []), reader)
  else readLoop remaining reader.buffered reader.body

/-- The bytes of the data frames. -/
def payload : List BodyPoll → List UInt8
  | [] => []
  | .frame (.data bytes) :: body => bytes ++ payload body
  | _ :: body => payload body

/-- The bytes that a reader has not delivered yet. -/
def ExtendedConnectReader.undelivered (reader : ExtendedConnectReader) : List UInt8 :=
  reader.buffered ++ payload reader.body

/-- The polls and bytes that are still to come. -/
def ExtendedConnectReader.work (reader : ExtendedConnectReader) : Nat :=
  reader.body.length + reader.undelivered.length

/-- The bytes that a read has delivered. -/
def delivered : ReadPoll → List UInt8
  | .ready (.ok bytes) => bytes
  | _ => []

/-- The result that ends a stream for its reader. -/
def endOfStream : ReadPoll := .ready (.ok [])

/-- What a read may do: it takes bytes from the front of what is undelivered, ends the stream only
when nothing is, and otherwise has less to do. -/
structure Reads (reader : ExtendedConnectReader) (outcome : ReadPoll × ExtendedConnectReader) :
    Prop where
  kept : reader.undelivered = delivered outcome.1 ++ outcome.2.undelivered
  ended : outcome.1 = endOfStream → reader.undelivered = []
  advances : outcome.1 ≠ endOfStream → outcome.2.work < reader.work

theorem copyBuffered_reads {remaining : Nat} (room : 0 < remaining)
    {reader : ExtendedConnectReader} (filled : reader.buffered ≠ []) :
    Reads reader (copyBuffered remaining reader) := by
  have copied : 0 < min remaining reader.buffered.length :=
    Nat.lt_min.mpr ⟨room, List.length_pos_of_ne_nil filled⟩
  constructor
  · simp only [copyBuffered, delivered, ExtendedConnectReader.undelivered]
    rw [← List.append_assoc, List.take_append_drop]
  · intro ended
    have empty : reader.buffered.take (min remaining reader.buffered.length) = [] := by
      simpa [copyBuffered, endOfStream] using ended
    rcases List.take_eq_nil_iff.mp empty with none | unfilled
    · exact absurd none copied.ne'
    · exact absurd unfilled filled
  · intro _
    simp only [copyBuffered, ExtendedConnectReader.work, ExtendedConnectReader.undelivered,
      List.length_append, List.length_drop]
    omega

/-- A poll without data is less to do. -/
theorem work_lt_of_payload_eq {poll : BodyPoll} {body : List BodyPoll}
    (empty : payload (poll :: body) = payload body) :
    (ExtendedConnectReader.new body).work < (ExtendedConnectReader.new (poll :: body)).work := by
  simp only [ExtendedConnectReader.new, ExtendedConnectReader.work,
    ExtendedConnectReader.undelivered, empty, List.length_cons]
  omega

theorem readLoop_reads {remaining : Nat} (room : 0 < remaining) (buffered : List UInt8)
    (body : List BodyPoll) : Reads ⟨body, buffered⟩ (readLoop remaining buffered body) := by
  induction body generalizing buffered with
  | nil =>
      cases buffered with
      | nil => exact ⟨rfl, fun _ => rfl, fun more => absurd rfl more⟩
      | cons byte buffered => exact copyBuffered_reads room (List.cons_ne_nil _ _)
  | cons poll body ih =>
      cases buffered with
      | cons byte buffered => exact copyBuffered_reads room (List.cons_ne_nil _ _)
      | nil =>
          match poll with
          | .pending => exact ⟨rfl, nofun, fun _ => work_lt_of_payload_eq rfl⟩
          | .failed error => exact ⟨rfl, nofun, fun _ => work_lt_of_payload_eq rfl⟩
          | .frame (.trailers headers) =>
              obtain ⟨kept, ended, advances⟩ := ih []
              exact ⟨kept, ended, fun more => (advances more).trans (work_lt_of_payload_eq rfl)⟩
          | .frame (.data bytes) =>
              obtain ⟨kept, ended, advances⟩ := ih bytes
              refine ⟨kept, ended, fun more => (advances more).trans ?_⟩
              exact Nat.add_lt_add_right (Nat.lt_succ_self _) _

theorem pollRead_reads {remaining : Nat} (room : 0 < remaining) (reader : ExtendedConnectReader) :
    Reads reader (pollRead reader remaining) := by
  rw [pollRead, if_neg room.ne']
  exact readLoop_reads room reader.buffered reader.body

/-- The results of reads into destinations of the given sizes. -/
def readAll : ExtendedConnectReader → List Nat → List ReadPoll
  | _, [] => []
  | reader, size :: sizes =>
      let outcome := pollRead reader size
      outcome.1 :: readAll outcome.2 sizes

variable {reader : ExtendedConnectReader} {sizes : List Nat}

/-- The reads deliver a first part of what is undelivered. -/
theorem readAll_prefix (room : ∀ size ∈ sizes, 0 < size) :
    (readAll reader sizes).flatMap delivered <+: reader.undelivered := by
  induction sizes generalizing reader with
  | nil => exact List.nil_prefix
  | cons size sizes ih =>
      obtain ⟨first, rest⟩ := List.forall_mem_cons.mp room
      rw [readAll, List.flatMap_cons, (pollRead_reads first reader).kept]
      exact List.prefix_append_right_inj _ |>.mpr (ih rest)

/-- Whoever is told of the end has been given everything. -/
theorem readAll_ended (room : ∀ size ∈ sizes, 0 < size) {front back : List ReadPoll}
    (results : readAll reader sizes = front ++ endOfStream :: back) :
    front.flatMap delivered = reader.undelivered := by
  induction sizes generalizing reader front with
  | nil => simp [readAll] at results
  | cons size sizes ih =>
      obtain ⟨first, rest⟩ := List.forall_mem_cons.mp room
      have reads := pollRead_reads first reader
      cases front with
      | nil =>
          obtain ⟨ended, _⟩ := List.cons.inj results
          rw [reads.ended ended, List.flatMap_nil]
      | cons result front =>
          obtain ⟨rfl, later⟩ := List.cons.inj results
          rw [List.flatMap_cons, ih rest later, reads.kept]

/-- As many reads as there are polls and bytes to come reach the end. -/
theorem endOfStream_mem_readAll (room : ∀ size ∈ sizes, 0 < size)
    (enough : reader.work < sizes.length) : endOfStream ∈ readAll reader sizes := by
  induction sizes generalizing reader with
  | nil => exact absurd enough (Nat.not_lt_zero _)
  | cons size sizes ih =>
      obtain ⟨first, rest⟩ := List.forall_mem_cons.mp room
      rw [readAll, List.mem_cons]
      by_cases ended : (pollRead reader size).1 = endOfStream
      · exact .inl ended.symm
      · have fewer := (pollRead_reads first reader).advances ended
        rw [List.length_cons] at enough
        exact .inr (ih rest (by omega))

/-! ## Writing -/

variable {channel : Channel (List UInt8)}

/-- The message of a write to a response that nobody reads any more. -/
def channelClosed : ChannelClosed → String :=
  fun _ => "HTTP/2 extended CONNECT response stream closed"

/-- The two ends of the response: the channel between them, the bytes of the frames that the body
has produced, those that the writer has reported as written, and whether the body has ended. -/
structure Response (channel : Channel (List UInt8)) where
  state : channel.State
  produced : List UInt8
  written : List UInt8
  ended : Bool

def Response.new (channel : Channel (List UInt8)) : Response channel :=
  ⟨channel.initial, [], [], false⟩

/-- The body's poll for its next frame. -/
def pollFrame (channel : Channel (List UInt8)) (state : channel.State) :
    Poll (Option Frame) × channel.State :=
  match channel.pollRecv state with
  | (.ready (some bytes), state) => (.ready (some (.data bytes)), state)
  | (.ready none, state) => (.ready none, state)
  | (.pending, state) => (.pending, state)

/-- No frame is to come.  The writer may act between the two questions. -/
def isEndStream (channel : Channel (List UInt8)) (state later : channel.State) : Bool :=
  channel.isClosed state && channel.isEmpty later

/-- The server polls the body once. -/
def Response.serve (response : Response channel) : Response channel :=
  match pollFrame channel response.state with
  | (.ready (some (.data bytes)), state) =>
      { response with state, produced := response.produced ++ bytes }
  | (.ready (some (.trailers _)), state) => { response with state }
  | (.ready none, state) => { response with state, ended := true }
  | (.pending, state) => { response with state }

/-- What a write reports. -/
abbrev WritePoll := Poll (Except String Nat)

/-- Send bytes.  The server may poll the body between the reservation and the send. -/
def pollSendBytes (response : Response channel) (bytes : List UInt8) (between : Nat) :
    WritePoll × Response channel :=
  let len := bytes.length
  match channel.pollReserve response.state with
  | (.pending, state) => (.pending, { response with state })
  | (.ready (.error closed), state) =>
      (.ready (.error (channelClosed closed)), { response with state })
  | (.ready (.ok ()), state) =>
      let response := Response.serve^[between] { response with state }
      match channel.sendItem response.state bytes with
      | (.error closed, state) =>
          (.ready (.error (channelClosed closed)), { response with state })
      | (.ok (), state) => (.ready (.ok len), { response with state })

def pollWrite (response : Response channel) (buffer : List UInt8) (between : Nat) :
    WritePoll × Response channel :=
  if buffer = [] then (.ready (.ok 0), response) else pollSendBytes response buffer between

def pollWriteVectored (response : Response channel) (buffers : List (List UInt8))
    (between : Nat) : WritePoll × Response channel :=
  let totalLen := (buffers.map List.length).sum
  if totalLen = 0 then (.ready (.ok 0), response)
  else pollSendBytes response (buffers.foldl (· ++ ·) []) between

def pollFlush (response : Response channel) : Poll (Except String Unit) × Response channel :=
  (.ready (.ok ()), response)

def pollShutdown (response : Response channel) : Poll (Except String Unit) × Response channel :=
  (.ready (.ok ()), { response with state := channel.close response.state })

/-- What the two tasks do with the response. -/
inductive ResponseAction
  | write (buffer : List UInt8) (between : Nat)
  | writeVectored (buffers : List (List UInt8)) (between : Nat)
  | flush
  | shutdown
  | serve
deriving DecidableEq

/-- Add the range that a write of these bytes has reported. -/
def Response.report (bytes : List UInt8) :
    WritePoll × Response channel → Response channel
  | (.ready (.ok count), response) =>
      { response with written := response.written ++ bytes.take count }
  | (_, response) => response

def Response.perform (response : Response channel) : ResponseAction → Response channel
  | .write buffer between => .report buffer (pollWrite response buffer between)
  | .writeVectored buffers between =>
      .report buffers.flatten (pollWriteVectored response buffers between)
  | .flush => (pollFlush response).2
  | .shutdown => (pollShutdown response).2
  | .serve => response.serve

/-- The response after some actions. -/
def Response.run (response : Response channel) (actions : List ResponseAction) :
    Response channel :=
  actions.foldl Response.perform response

/-! ### What an action keeps -/

variable {contents : channel.State → List (List UInt8)} {response : Response channel}

/-- Every byte that was reported as written has been produced or waits in the channel, and a body
that has ended has nothing to wait for. -/
structure Balanced (contents : channel.State → List (List UInt8)) (response : Response channel) :
    Prop where
  written : response.written = response.produced ++ (contents response.state).flatten
  ended : response.ended = true →
    channel.isClosed response.state = true ∧ contents response.state = []

/-- The channel is closed and has nothing left. -/
def Drained (contents : channel.State → List (List UInt8)) (response : Response channel) : Prop :=
  channel.isClosed response.state = true ∧ contents response.state = []

/-- A step from one response to another keeps the balance, and a closed channel closed and no
fuller than it was. -/
structure Keeps (contents : channel.State → List (List UInt8))
    (before after : Response channel) : Prop where
  balanced : Balanced contents before → Balanced contents after
  closed : channel.isClosed before.state = true → channel.isClosed after.state = true
  drained : Drained contents before → Drained contents after

theorem Keeps.refl : Keeps contents response response :=
  ⟨id, id, id⟩

theorem Keeps.trans {before middle after : Response channel} (first : Keeps contents before middle)
    (second : Keeps contents middle after) : Keeps contents before after :=
  ⟨second.balanced ∘ first.balanced, second.closed ∘ first.closed, second.drained ∘ first.drained⟩

/-- A step of the channel alone that leaves its contents. -/
theorem Keeps.of_contents_eq {state : channel.State}
    (same : contents state = contents response.state)
    (closed : channel.isClosed response.state = true → channel.isClosed state = true) :
    Keeps contents response { response with state } where
  balanced balance :=
    { written := by rw [same, balance.written]
      ended := fun ended => ⟨closed (balance.ended ended).1, same.trans (balance.ended ended).2⟩ }
  closed := closed
  drained drained := ⟨closed drained.1, same.trans drained.2⟩

theorem serve_keeps (lawful : channel.Lawful contents) (response : Response channel) :
    Keeps contents response response.serve := by
  have held := lawful.contents_pollRecv response.state
  have closed := lawful.closed_pollRecv response.state
  have finished := lawful.finished response.state
  unfold Response.serve pollFrame
  generalize channel.pollRecv response.state = outcome at held closed finished ⊢
  rcases outcome with ⟨_ | _ | bytes, state⟩
  · exact .of_contents_eq held.symm closed
  · obtain ⟨nothing, ends⟩ := finished rfl
    have left : contents state = [] := held.symm.trans nothing
    refine ⟨fun balance => ⟨?_, fun _ => ⟨ends, left⟩⟩, closed, fun _ => ⟨ends, left⟩⟩
    simp only [balance.written, nothing, left]
  · have front : contents response.state = bytes :: contents state := held
    have nonempty : contents response.state ≠ [] := front ▸ List.cons_ne_nil _ _
    refine ⟨fun balance => ⟨?_, fun ended => ?_⟩, closed, fun drained => ?_⟩
    · simp only [balance.written, front, List.flatten_cons, List.append_assoc]
    · exact absurd (balance.ended ended).2 nonempty
    · exact absurd drained.2 nonempty

theorem iterate_serve_keeps (lawful : channel.Lawful contents) (between : Nat) :
    Keeps contents response (Response.serve^[between] response) := by
  induction between generalizing response with
  | zero => exact .refl
  | succ between ih =>
      rw [Function.iterate_succ_apply]
      exact (serve_keeps lawful response).trans ih

/-- A send puts its bytes into the channel when it reports them, and only then. -/
theorem pollSendBytes_keeps (lawful : channel.Lawful contents) (bytes : List UInt8)
    (between : Nat) :
    Keeps contents response (.report bytes (pollSendBytes response bytes between)) := by
  have same := lawful.contents_pollReserve response.state
  have closed := lawful.closed_pollReserve response.state
  unfold pollSendBytes
  generalize channel.pollReserve response.state = outcome at same closed ⊢
  rcases outcome with ⟨_ | failure | ⟨⟩, state⟩
  · exact .of_contents_eq same closed
  · exact .of_contents_eq same closed
  · have reserved : Keeps contents response { response with state } :=
      .of_contents_eq same closed
    refine (reserved.trans (iterate_serve_keeps lawful between)).trans ?_
    simp only
    generalize Response.serve^[between] { response with state } = served
    have entered := lawful.contents_sendItem served.state bytes
    have refused := lawful.closed_sendItem served.state bytes
    generalize channel.sendItem served.state bytes = sent at entered refused ⊢
    rcases sent with ⟨failure | ⟨⟩, state⟩
    · have same : contents state = contents served.state := entered.trans (List.append_nil _)
      exact .of_contents_eq same fun shut => (refused shut).2
    · have pushed : contents state = contents served.state ++ [bytes] := entered
      have opened : channel.isClosed served.state ≠ true :=
        fun shut => absurd (refused shut).1 (List.cons_ne_nil _ _)
      refine ⟨fun balance => ⟨?_, fun ended => ?_⟩, fun shut => ?_, fun drained => ?_⟩
      · simp [Response.report, balance.written, pushed]
      · exact absurd (balance.ended ended).1 opened
      · exact absurd shut opened
      · exact absurd drained.1 opened

theorem perform_keeps (lawful : channel.Lawful contents) (response : Response channel)
    (action : ResponseAction) : Keeps contents response (response.perform action) := by
  have nothing (bytes : List UInt8) :
      Keeps contents response (.report bytes (.ready (.ok 0), response)) := by
    simpa [Response.report] using Keeps.refl
  cases action with
  | write buffer between =>
      simp only [Response.perform, pollWrite]
      split_ifs
      · exact nothing buffer
      · exact pollSendBytes_keeps lawful buffer between
  | writeVectored buffers between =>
      have joined : buffers.foldl (· ++ ·) [] = buffers.flatten := by
        rw [List.foldl_append_eq_append, List.nil_append, List.map_id']
      simp only [Response.perform, pollWriteVectored, joined]
      split_ifs
      · exact nothing _
      · exact pollSendBytes_keeps lawful _ between
  | flush => exact .refl
  | shutdown =>
      exact .of_contents_eq (lawful.contents_close _) (lawful.closed_close _)
  | serve => exact serve_keeps lawful response

theorem run_keeps (lawful : channel.Lawful contents) (actions : List ResponseAction) :
    Keeps contents response (response.run actions) := by
  induction actions generalizing response with
  | nil => exact .refl
  | cons action actions ih => exact (perform_keeps lawful response action).trans ih

theorem run_append (earlier later : List ResponseAction) :
    response.run (earlier ++ later) = (response.run earlier).run later :=
  List.foldl_append

theorem new_balanced (lawful : channel.Lawful contents) :
    Balanced contents (Response.new channel) where
  written := by simp [Response.new, lawful.contents_initial]
  ended := nofun

theorem Balanced.produced_eq (balance : Balanced contents response)
    (nothing : contents response.state = []) : response.produced = response.written := by
  rw [balance.written, nothing, List.flatten_nil, List.append_nil]

/-! ## Both directions -/

/-- Reads deliver the bytes of the data frames in order and report the end only after the last of
them, which enough reads reach.  The body produces the bytes that were reported as written, in
order, and ends only when it has produced them all. -/
theorem extended_connect_faithful (lawful : channel.Lawful contents) :
    (∀ (body : List BodyPoll) (sizes : List Nat), (∀ size ∈ sizes, 0 < size) →
      (readAll (.new body) sizes).flatMap delivered <+: payload body ∧
      (∀ front back, readAll (.new body) sizes = front ++ endOfStream :: back →
        front.flatMap delivered = payload body) ∧
      (body.length + (payload body).length < sizes.length →
        endOfStream ∈ readAll (.new body) sizes ∧
          (readAll (.new body) sizes).flatMap delivered = payload body)) ∧
    ∀ actions : List ResponseAction,
      ((Response.new channel).run actions).written =
          ((Response.new channel).run actions).produced ++
            (contents ((Response.new channel).run actions).state).flatten ∧
      (((Response.new channel).run actions).ended = true →
        ((Response.new channel).run actions).produced =
          ((Response.new channel).run actions).written) ∧
      ∀ earlier middle later, actions = earlier ++ middle ++ later →
        isEndStream channel ((Response.new channel).run earlier).state
            ((Response.new channel).run (earlier ++ middle)).state = true →
          ((Response.new channel).run actions).produced =
            ((Response.new channel).run actions).written := by
  refine ⟨fun body sizes room => ?_, fun actions => ?_⟩
  · have first : (readAll (.new body) sizes).flatMap delivered <+: payload body :=
      readAll_prefix room
    have told : ∀ front back, readAll (.new body) sizes = front ++ endOfStream :: back →
        front.flatMap delivered = payload body :=
      fun front back results => readAll_ended room results
    refine ⟨first, told, fun enough => ?_⟩
    have reached : endOfStream ∈ readAll (.new body) sizes :=
      endOfStream_mem_readAll room enough
    refine ⟨reached, ?_⟩
    obtain ⟨front, back, results⟩ := List.append_of_mem reached
    have everything := told front back results
    apply first.eq_of_length_le
    rw [results, List.flatMap_append, everything, List.length_append]
    exact Nat.le_add_right _ _
  · have balance : Balanced contents ((Response.new channel).run actions) :=
      (run_keeps lawful actions).balanced (new_balanced lawful)
    refine ⟨balance.written, fun ended => balance.produced_eq (balance.ended ended).2, ?_⟩
    rintro earlier middle later rfl finished
    obtain ⟨closed, empty⟩ := Bool.and_eq_true_iff.mp finished
    have drained : Drained contents ((Response.new channel).run (earlier ++ middle)) := by
      refine ⟨?_, lawful.empty _ empty⟩
      rw [run_append]
      exact (run_keeps lawful middle).closed closed
    have still : Drained contents ((Response.new channel).run (earlier ++ middle ++ later)) := by
      rw [run_append]
      exact (run_keeps lawful later).drained drained
    exact balance.produced_eq still.2

/-- A request body with an empty frame, trailers and a frame that spans several reads. -/
def sampleBody : List BodyPoll :=
  [.frame (.data []), .pending, .frame (.data [1, 2, 3]), .frame (.trailers []),
    .frame (.data [4])]

/-- Writes into a channel with room for one item, one of them while it is full. -/
def sampleActions : List ResponseAction :=
  [.write [1, 2] 0, .writeVectored [[3], [4]] 0, .serve, .writeVectored [[3], [4]] 0, .shutdown,
    .serve, .write [5] 0, .serve]

theorem extended_connect_faithful_sample :
    (readAll (.new sampleBody) [2, 2, 2, 2, 2, 2, 2, 2, 2, 2]).flatMap delivered = [1, 2, 3, 4] ∧
      ((Response.new (.bounded 1)).run sampleActions).produced = [1, 2, 3, 4] := by
  obtain ⟨reading, writing⟩ :=
    @extended_connect_faithful (.bounded 1) Channel.Bounded.queue (Channel.bounded_lawful 1)
  obtain ⟨_, _, complete⟩ := reading sampleBody [2, 2, 2, 2, 2, 2, 2, 2, 2, 2] (by decide)
  obtain ⟨_, ended, _⟩ := writing sampleActions
  exact ⟨(complete (by decide)).2, (ended rfl).trans rfl⟩

end EdgeGateway.Websocket
