import Mathlib.Data.UInt
import ToothVoca.Library.CString

namespace ToothVoca
namespace Network

open Library

/-!
# The blocking HTTP exchange of `http_req.c`

`HttpRequest_Req` resolves the server, connects, sends the request and then
reads until the peer closes, an error or the five second timeout occurs, or
the receive buffer is full.  `HttpRequest_GetWord` hands the received string
over and empties the receive buffer.

The socket layer is a record of results.  Its `reads` list what each `read`
meets, in order: bytes of the stream, the close of the peer, or a failure.
One `read` never returns more bytes than it is asked for, so a longer arrival
is cut.  Nothing else is assumed about how the stream is divided.

The receive index is carried together with the proof that it stays inside
`g_recvBuf`; hence the terminator behind the loop is always stored in bounds.
-/

def MAX_REC_BUFFER_SIZE : Nat := 2048

/-- What one `read` meets: some bytes, the peer's close, or an error or
timeout. -/
inductive ReadEvent where
  | data (head : UInt8) (tail : List UInt8)
  | closed
  | failed
deriving DecidableEq, Repr

/-- The call `read(s, mem, count)`: its return value and the stored bytes. -/
def read : ReadEvent → Nat → Int × List UInt8
  | .data head tail, count =>
      (((head :: tail).take count).length, (head :: tail).take count)
  | .closed, _ => (0, [])
  | .failed, _ => (-1, [])

/-- The results of the socket layer during one request.  `resNull` is the
test `res == NULL` on the looked-up address list. -/
structure SocketLayer where
  err : Int
  resNull : Bool
  socket : Int
  connect : Int
  write : Int
  setsockopt : Int
  reads : List ReadEvent

/-- A call into the socket layer.  A `read` records where in `g_recvBuf` it
stores and how many bytes it asks for. -/
inductive SocketCall where
  | getaddrinfo (server port : String)
  | socket
  | connect
  | freeaddrinfo
  | write (req : String)
  | setsockopt (tv_sec : Nat)
  | read (offset count : Nat)
  | close
deriving DecidableEq, Repr

/-- The argument `sizeof(g_recvBuf) - g_recvIdx - 1`, which C evaluates in the
unsigned 32-bit `size_t`. -/
def recvCount (g_recvIdx : Nat) : Nat :=
  (UInt32.ofNat MAX_REC_BUFFER_SIZE - UInt32.ofNat g_recvIdx - 1).toNat

theorem recvCount_eq {g_recvIdx : Nat} (inside : g_recvIdx < MAX_REC_BUFFER_SIZE) :
    recvCount g_recvIdx = MAX_REC_BUFFER_SIZE - 1 - g_recvIdx := by
  unfold MAX_REC_BUFFER_SIZE at inside
  unfold recvCount MAX_REC_BUFFER_SIZE
  have index : (UInt32.ofNat g_recvIdx).toNat = g_recvIdx := by
    rw [UInt32.toNat_ofNat']
    exact Nat.mod_eq_of_lt (by omega)
  rw [UInt32.toNat_sub, UInt32.toNat_sub, index]
  simp only [UInt32.reduceOfNat, UInt32.reduceToNat]
  omega

theorem length_read_le (event : ReadEvent) (count : Nat) :
    (read event count).2.length ≤ count := by
  cases event with
  | data head tail => exact List.length_take_le _ _
  | closed => exact Nat.zero_le _
  | failed => exact Nat.zero_le _

/-- A positive return value counts the stored bytes. -/
theorem length_read_pos {event : ReadEvent} {count : Nat} (positive : 0 < (read event count).1) :
    0 < (read event count).2.length := by
  cases event with
  | data head tail => exact Int.natCast_pos.mp positive
  | closed => exact absurd positive (Int.lt_irrefl 0)
  | failed => exact absurd positive (show ¬ (0 : Int) < -1 by decide)

/-- The receive buffer and the index `g_recvIdx` of its first free byte,
together with the reads issued so far. -/
structure RecvState where
  g_recvBuf : Buffer MAX_REC_BUFFER_SIZE
  g_recvIdx : Nat
  inside : g_recvIdx < MAX_REC_BUFFER_SIZE
  calls : List SocketCall

namespace RecvState

/-- The state before the first read: an index of zero into a buffer that still
holds whatever an earlier request left. -/
def initial (g_recvBuf : Buffer MAX_REC_BUFFER_SIZE) : RecvState where
  g_recvBuf := g_recvBuf
  g_recvIdx := 0
  inside := by decide
  calls := []

/-- The received part of the buffer. -/
def received (state : RecvState) : List UInt8 :=
  state.g_recvBuf.bytes.take state.g_recvIdx

theorem fits (state : RecvState) (event : ReadEvent) :
    state.g_recvIdx + (read event (recvCount state.g_recvIdx)).2.length <
      MAX_REC_BUFFER_SIZE := by
  have bound := length_read_le event (recvCount state.g_recvIdx)
  rw [recvCount_eq state.inside] at bound ⊢
  have inside := state.inside
  unfold MAX_REC_BUFFER_SIZE at *
  omega

/-- One `read` behind the bytes received so far, and `g_recvIdx += r`. -/
def receive (state : RecvState) (event : ReadEvent) : RecvState where
  g_recvBuf := state.g_recvBuf.store state.g_recvIdx
    (read event (recvCount state.g_recvIdx)).2 (Nat.le_of_lt (state.fits event))
  g_recvIdx := state.g_recvIdx + (read event (recvCount state.g_recvIdx)).2.length
  inside := state.fits event
  calls := state.calls ++ [.read state.g_recvIdx (recvCount state.g_recvIdx)]

/-- The assignment `g_recvBuf[g_recvIdx] = '\0'` behind the loop. -/
def terminated (state : RecvState) : Buffer MAX_REC_BUFFER_SIZE :=
  state.g_recvBuf.store state.g_recvIdx [0] state.inside

end RecvState

/-- The receive loop.  A connection on which nothing more happens is one that
the peer has closed, so an exhausted list ends the loop like a close. -/
def recvLoop : List ReadEvent → RecvState → RecvState
  | [], state => state.receive .closed
  | event :: rest, state =>
      if 0 < (read event (recvCount state.g_recvIdx)).1 then
        if MAX_REC_BUFFER_SIZE - 1 ≤ (state.receive event).g_recvIdx then
          state.receive event
        else
          recvLoop rest (state.receive event)
      else
        state.receive event

/-- Result of `HttpRequest_Req`: the returned flag, the receive buffer and the
calls made. -/
structure ReqResult where
  ok : Bool
  g_recvBuf : Buffer MAX_REC_BUFFER_SIZE
  calls : List SocketCall

def HttpRequest_Req (layer : SocketLayer) (req server port : String)
    (g_recvBuf : Buffer MAX_REC_BUFFER_SIZE) : ReqResult :=
  if layer.err ≠ 0 ∨ layer.resNull then
    ⟨false, g_recvBuf, [.getaddrinfo server port]⟩
  else if layer.socket < 0 then
    ⟨false, g_recvBuf, [.getaddrinfo server port, .socket, .freeaddrinfo]⟩
  else if layer.connect ≠ 0 then
    ⟨false, g_recvBuf,
      [.getaddrinfo server port, .socket, .connect, .close, .freeaddrinfo]⟩
  else if layer.write < 0 then
    ⟨false, g_recvBuf,
      [.getaddrinfo server port, .socket, .connect, .freeaddrinfo, .write req, .close]⟩
  else if layer.setsockopt < 0 then
    ⟨false, g_recvBuf,
      [.getaddrinfo server port, .socket, .connect, .freeaddrinfo, .write req,
        .setsockopt 5, .close]⟩
  else
    let final := recvLoop layer.reads (RecvState.initial g_recvBuf)
    ⟨true, final.terminated,
      [.getaddrinfo server port, .socket, .connect, .freeaddrinfo, .write req,
        .setsockopt 5] ++ final.calls ++ [.close]⟩

/-- Result of `HttpRequest_GetWord`: the returned flag, the caller's buffer and
the receive buffer. -/
structure GetWordResult (buf_size : Nat) where
  ok : Bool
  buf : Buffer buf_size
  g_recvBuf : Buffer MAX_REC_BUFFER_SIZE

def HttpRequest_GetWord {buf_size : Nat} (buf : Buffer buf_size)
    (g_recvBuf : Buffer MAX_REC_BUFFER_SIZE) : GetWordResult buf_size :=
  if room : CString.strlen g_recvBuf.bytes < buf_size then
    let copied := CString.copyInto buf g_recvBuf.bytes buf_size (Nat.le_refl buf_size)
    { ok := true
      buf := copied.store (buf_size - 1) [0] (by simp only [List.length_singleton]; omega)
      g_recvBuf := g_recvBuf.store 0 [0] (by decide) }
  else
    { ok := false, buf := buf, g_recvBuf := g_recvBuf }

/-! ## What the loop receives -/

/-- The peer's byte stream: everything that arrives before the first close or
failure, in order. -/
def stream : List ReadEvent → List UInt8
  | .data head tail :: rest => head :: tail ++ stream rest
  | _ => []

/-- The part of the stream that fits in front of the last byte of
`g_recvBuf`. -/
def received (reads : List ReadEvent) : List UInt8 :=
  (stream reads).take (MAX_REC_BUFFER_SIZE - 1)

/-- Every socket call before the receive loop succeeds. -/
def SocketLayer.connected (layer : SocketLayer) : Prop :=
  layer.err = 0 ∧ layer.resNull = false ∧ 0 ≤ layer.socket ∧ layer.connect = 0 ∧
    0 ≤ layer.write ∧ 0 ≤ layer.setsockopt

instance (layer : SocketLayer) : Decidable layer.connected :=
  inferInstanceAs (Decidable (_ ∧ _))

/-- A layer whose calls before the receive loop all succeed. -/
def SocketLayer.succeeding (reads : List ReadEvent) : SocketLayer where
  err := 0
  resNull := false
  socket := 3
  connect := 0
  write := 0
  setsockopt := 0
  reads := reads

theorem RecvState.received_receive (state : RecvState) (event : ReadEvent) :
    (state.receive event).received =
      state.received ++ (read event (recvCount state.g_recvIdx)).2 :=
  Buffer.take_store _ _ _ (Nat.le_of_lt (state.fits event))

/-- One round of the loop appends the front of the stream to the received
bytes, and goes on exactly while there is room for another byte. -/
theorem recvLoop_received (reads : List ReadEvent) (state : RecvState)
    (room : state.g_recvIdx < MAX_REC_BUFFER_SIZE - 1) :
    (recvLoop reads state).received =
      state.received ++ (stream reads).take (MAX_REC_BUFFER_SIZE - 1 - state.g_recvIdx) := by
  induction reads generalizing state with
  | nil =>
      rw [recvLoop, RecvState.received_receive]
      simp only [read, stream, List.take_nil]
  | cons event rest ih =>
      have asked := recvCount_eq state.inside
      cases event with
      | data head tail =>
          have positive : 0 < (read (.data head tail) (recvCount state.g_recvIdx)).1 := by
            simp only [read, List.length_take, List.length_cons, asked]
            omega
          rw [recvLoop, if_pos positive]
          by_cases full : MAX_REC_BUFFER_SIZE - 1 ≤ (state.receive (.data head tail)).g_recvIdx
          · rw [if_pos full, RecvState.received_receive]
            simp only [RecvState.receive, read, List.length_take] at full
            simp only [read, stream, asked]
            rw [List.take_append_of_le_length]
            omega
          · rw [if_neg full, ih _ (Nat.lt_of_not_le full), RecvState.received_receive,
              List.append_assoc]
            simp only [RecvState.receive, read, List.length_take, asked] at full ⊢
            have whole : (head :: tail).length ≤ MAX_REC_BUFFER_SIZE - 1 - state.g_recvIdx := by
              omega
            have remaining : MAX_REC_BUFFER_SIZE - 1 - (state.g_recvIdx + (head :: tail).length) =
                MAX_REC_BUFFER_SIZE - 1 - state.g_recvIdx - (head :: tail).length := by
              omega
            rw [List.take_of_length_le whole, stream, List.take_append,
              List.take_of_length_le whole, Nat.min_eq_right whole, remaining]
      | closed =>
          rw [recvLoop, if_neg (by simp [read]), RecvState.received_receive]
          simp only [read, stream, List.take_nil]
      | failed =>
          rw [recvLoop, if_neg (by simp [read]), RecvState.received_receive]
          simp only [read, stream, List.take_nil]

/-- A read of at least one byte that ends in front of the last byte of
`g_recvBuf`. -/
def Asked (call : SocketCall) : Prop :=
  ∃ offset count, call = .read offset count ∧ 1 ≤ count ∧
    offset + count ≤ MAX_REC_BUFFER_SIZE - 1

theorem RecvState.asked (state : RecvState) (room : state.g_recvIdx < MAX_REC_BUFFER_SIZE - 1) :
    Asked (.read state.g_recvIdx (recvCount state.g_recvIdx)) := by
  have count := recvCount_eq state.inside
  refine ⟨_, _, rfl, ?_, ?_⟩
  · omega
  · omega

/-- The loop, started with room for a byte, makes proper reads only.  Every
read but the last one brings a byte, so the number of reads is bounded by the
room. -/
theorem recvLoop_calls (reads : List ReadEvent) (state : RecvState)
    (room : state.g_recvIdx < MAX_REC_BUFFER_SIZE - 1) :
    ∃ issued, (recvLoop reads state).calls = state.calls ++ issued ∧
      issued.length + state.g_recvIdx ≤ MAX_REC_BUFFER_SIZE - 1 ∧ ∀ call ∈ issued, Asked call := by
  have onlyOne (state : RecvState) (room : state.g_recvIdx < MAX_REC_BUFFER_SIZE - 1)
      (event : ReadEvent) : ∃ issued, (state.receive event).calls = state.calls ++ issued ∧
        issued.length + state.g_recvIdx ≤ MAX_REC_BUFFER_SIZE - 1 ∧
        ∀ call ∈ issued, Asked call := by
    refine ⟨[_], rfl, ?_, ?_⟩
    · rw [List.length_singleton]
      omega
    · intro call member
      rw [List.mem_singleton.mp member]
      exact state.asked room
  induction reads generalizing state with
  | nil => exact onlyOne state room .closed
  | cons event rest ih =>
      rw [recvLoop]
      by_cases positive : 0 < (read event (recvCount state.g_recvIdx)).1
      · rw [if_pos positive]
        by_cases full : MAX_REC_BUFFER_SIZE - 1 ≤ (state.receive event).g_recvIdx
        · rw [if_pos full]
          exact onlyOne state room event
        · rw [if_neg full]
          rcases ih (state.receive event) (Nat.lt_of_not_le full) with
            ⟨issued, calls, bound, proper⟩
          have grown : state.g_recvIdx < (state.receive event).g_recvIdx :=
            Nat.lt_add_of_pos_right (length_read_pos positive)
          refine ⟨.read state.g_recvIdx (recvCount state.g_recvIdx) :: issued, ?_, ?_, ?_⟩
          · rw [calls, RecvState.receive, List.append_assoc, List.singleton_append]
          · rw [List.length_cons]
            omega
          · exact List.forall_mem_cons.mpr ⟨state.asked room, proper⟩
      · rw [if_neg positive]
        exact onlyOne state room event

/-- Behind the received bytes stands the terminator. -/
theorem terminated_bytes (state : RecvState) :
    state.terminated.bytes =
      state.received ++ 0 :: state.g_recvBuf.bytes.drop (state.g_recvIdx + 1) := by
  simp only [RecvState.terminated, Buffer.store_bytes, RecvState.received, List.append_assoc,
    List.singleton_append, List.length_singleton]

/-- The bytes of the stream that fit, and the terminator.  Nothing of the earlier
buffer contents is in front of it. -/
theorem recvLoop_terminated (reads : List ReadEvent) (g_recvBuf : Buffer MAX_REC_BUFFER_SIZE) :
    ∃ behind, (recvLoop reads (RecvState.initial g_recvBuf)).terminated.bytes =
      received reads ++ 0 :: behind := by
  have nothingYet : (RecvState.initial g_recvBuf).received = [] := rfl
  have roomForOne : 0 < MAX_REC_BUFFER_SIZE - 1 := by decide
  have whole := recvLoop_received reads (RecvState.initial g_recvBuf) roomForOne
  rw [nothingYet, List.nil_append] at whole
  have split := terminated_bytes (recvLoop reads (RecvState.initial g_recvBuf))
  rw [whole] at split
  exact ⟨_, split⟩

theorem length_content_received_lt (reads : List ReadEvent) :
    (CString.content (received reads)).length < MAX_REC_BUFFER_SIZE := by
  have cut : (CString.content (received reads)).length ≤ (received reads).length :=
    (List.takeWhile_sublist _).length_le
  have bound : (received reads).length ≤ MAX_REC_BUFFER_SIZE - 1 := List.length_take_le _ _
  unfold MAX_REC_BUFFER_SIZE at bound ⊢
  omega

/-! ## The two extern functions -/

/-- The C string that a successful request leaves in `g_recvBuf`: the received
bytes up to a NUL among them. -/
def responseText (layer : SocketLayer) : List UInt8 :=
  CString.content (received layer.reads)

theorem length_responseText_lt (layer : SocketLayer) :
    (responseText layer).length < MAX_REC_BUFFER_SIZE :=
  length_content_received_lt layer.reads

theorem responseText_prefix (layer : SocketLayer) :
    responseText layer <+: stream layer.reads :=
  (List.takeWhile_prefix _).trans (List.take_prefix _ _)

theorem responseText_of_nulFree {layer : SocketLayer} {text : List UInt8}
    (response : stream layer.reads = text) (free : CString.NulFree text) :
    responseText layer = text.take 2047 := by
  rw [responseText, received, response, CString.content_eq_self (free.take _)]
  rfl

/-- The request is refused exactly where a call before the loop fails; how the
loop ends has no influence on the result. -/
theorem HttpRequest_Req_ok (layer : SocketLayer) (req server port : String)
    (g_recvBuf : Buffer MAX_REC_BUFFER_SIZE) :
    (HttpRequest_Req layer req server port g_recvBuf).ok = true ↔ layer.connected := by
  unfold HttpRequest_Req SocketLayer.connected
  split
  · simp only [Bool.false_eq_true, false_iff]
    rintro ⟨noError, notNull, _⟩
    simp_all
  · split
    · simp only [Bool.false_eq_true, false_iff]
      omega
    · split
      · simp only [Bool.false_eq_true, false_iff]
        omega
      · split
        · simp only [Bool.false_eq_true, false_iff]
          omega
        · split
          · simp only [Bool.false_eq_true, false_iff]
            omega
          · simp_all

/-- A connected request leaves what its receive loop leaves. -/
theorem HttpRequest_Req_g_recvBuf {layer : SocketLayer} (connected : layer.connected)
    (req server port : String) (g_recvBuf : Buffer MAX_REC_BUFFER_SIZE) :
    (HttpRequest_Req layer req server port g_recvBuf).g_recvBuf =
      (recvLoop layer.reads (RecvState.initial g_recvBuf)).terminated := by
  rcases connected with ⟨noError, notNull, socket, connect, write, setsockopt⟩
  unfold HttpRequest_Req
  rw [if_neg (by simp [noError, notNull]), if_neg (Int.not_lt.mpr socket),
    if_neg (by simp [connect]), if_neg (Int.not_lt.mpr write),
    if_neg (Int.not_lt.mpr setsockopt)]

/-- A connected request leaves exactly the response text, whatever the buffer
held before and however the stream was divided. -/
theorem HttpRequest_Req_content {layer : SocketLayer} (connected : layer.connected)
    (req server port : String) (g_recvBuf : Buffer MAX_REC_BUFFER_SIZE) :
    CString.content (HttpRequest_Req layer req server port g_recvBuf).g_recvBuf.bytes =
      responseText layer := by
  rcases recvLoop_terminated layer.reads g_recvBuf with ⟨behind, bytes⟩
  rw [HttpRequest_Req_g_recvBuf connected, bytes, CString.content_append_nul]
  rfl

/-- A string that fits is handed over unchanged, and the receive buffer is
emptied. -/
theorem HttpRequest_GetWord_copied {buf_size : Nat} (buf : Buffer buf_size)
    {g_recvBuf : Buffer MAX_REC_BUFFER_SIZE}
    (room : CString.strlen g_recvBuf.bytes < buf_size) :
    (HttpRequest_GetWord buf g_recvBuf).ok = true ∧
      CString.content (HttpRequest_GetWord buf g_recvBuf).buf.bytes =
        CString.content g_recvBuf.bytes ∧
      CString.content (HttpRequest_GetWord buf g_recvBuf).g_recvBuf.bytes = [] := by
  have short : (CString.content g_recvBuf.bytes).length ≤ buf_size - 1 := Nat.le_pred_of_lt room
  rw [HttpRequest_GetWord, dif_pos room]
  refine ⟨rfl, ?_, ?_⟩
  · simp only []
    rw [CString.content_copyInto_store _ _ _ (Nat.sub_le _ _), List.take_of_length_le short]
  · simp only [Buffer.store_bytes, List.take_zero, List.nil_append]
    exact CString.content_append_nul [] _

/-! ## The loop and the hand-over together -/

/-- The loop asks for at least one byte and never for more than fits in front of
the last byte of `g_recvBuf`, makes at most 2047 reads, and leaves the first
2047 bytes of the stream with a NUL behind them.  The string is then handed
over to a buffer of 2048 bytes without fail. -/
theorem recvLoop_receives (reads : List ReadEvent) (g_recvBuf : Buffer MAX_REC_BUFFER_SIZE) :
    let final := recvLoop reads (RecvState.initial g_recvBuf)
    (∀ call ∈ final.calls, ∃ offset count, call = .read offset count ∧ 1 ≤ count ∧
        offset + count ≤ 2047) ∧
      final.calls.length ≤ 2047 ∧
      (∃ behind, final.terminated.bytes = (stream reads).take 2047 ++ 0 :: behind) ∧
      ∀ buf : Buffer 2048,
        (HttpRequest_GetWord buf final.terminated).ok = true ∧
          CString.content (HttpRequest_GetWord buf final.terminated).buf.bytes =
            CString.content final.terminated.bytes ∧
          CString.content (HttpRequest_GetWord buf final.terminated).g_recvBuf.bytes = [] := by
  intro final
  have roomForOne : 0 < MAX_REC_BUFFER_SIZE - 1 := by decide
  rcases recvLoop_calls reads (RecvState.initial g_recvBuf) roomForOne with
    ⟨issued, calls, bound, proper⟩
  have onlyIssued : final.calls = issued := calls
  have terminated := recvLoop_terminated reads g_recvBuf
  refine ⟨?_, ?_, terminated, ?_⟩
  · rw [onlyIssued]
    exact proper
  · rw [onlyIssued]
    exact bound
  · intro buf
    rcases terminated with ⟨behind, bytes⟩
    apply HttpRequest_GetWord_copied buf
    rw [CString.strlen, bytes, CString.content_append_nul]
    exact length_content_received_lt reads

/-! ## What a returned success means -/

/-- The bytes that the peer sends up to its close.  There are none to speak of
when a read fails before. -/
def closedStream : List ReadEvent → Option (List UInt8)
  | .data head tail :: rest => (closedStream rest).map (head :: tail ++ ·)
  | .failed :: _ => none
  | _ => some []

theorem stream_of_closedStream {reads : List ReadEvent} {text : List UInt8}
    (closed : closedStream reads = some text) : stream reads = text := by
  induction reads generalizing text with
  | nil =>
      cases closed
      rfl
  | cons event rest ih =>
      cases event with
      | data head tail =>
          rw [closedStream, Option.map_eq_some_iff] at closed
          rcases closed with ⟨later, found, shape⟩
          rw [stream, ih found, shape]
      | closed =>
          cases closed
          rfl
      | failed => cases closed

/-- The whole request was accepted, and `g_recvBuf` holds everything that the
peer sent up to its close. -/
def Exchanged (layer : SocketLayer) (req : String) (g_recvBuf : Buffer MAX_REC_BUFFER_SIZE) :
    Prop :=
  layer.write = CString.strlen req.toUTF8.toList ∧
    ∃ text, closedStream layer.reads = some text ∧ ∃ behind, g_recvBuf.bytes = text ++ 0 :: behind

/-- A returned success stands for a complete exchange exactly where no call in
front of the loop succeeds by half and no read fails or finds the buffer full. -/
theorem HttpRequest_Req_exchanged_iff (layer : SocketLayer) (req server port : String)
    (g_recvBuf : Buffer MAX_REC_BUFFER_SIZE) :
    ((HttpRequest_Req layer req server port g_recvBuf).ok = true →
      Exchanged layer req (HttpRequest_Req layer req server port g_recvBuf).g_recvBuf) ↔
    (layer.connected → layer.write = CString.strlen req.toUTF8.toList ∧
      ∃ text, closedStream layer.reads = some text ∧ text.length ≤ 2047) := by
  rw [HttpRequest_Req_ok]
  refine forall_congr' fun connected => ?_
  rcases recvLoop_terminated layer.reads g_recvBuf with ⟨behind, bytes⟩
  rw [HttpRequest_Req_g_recvBuf connected, Exchanged, bytes]
  refine and_congr_right fun _ => exists_congr fun text => and_congr_right fun closed => ?_
  rw [received, stream_of_closedStream closed]
  constructor
  · rintro ⟨behind', same⟩
    have total := (recvLoop layer.reads (RecvState.initial g_recvBuf)).terminated.length_bytes
    rw [bytes, received, stream_of_closedStream closed, same, List.length_append,
      List.length_cons] at total
    unfold MAX_REC_BUFFER_SIZE at total
    omega
  · intro fits
    exact ⟨behind, by rw [List.take_of_length_le (by exact fits)]⟩

/-- The request of three bytes is accepted, one byte arrives, and then the peer
falls silent until the timeout. -/
theorem HttpRequest_Req_not_exchanged :
    ¬ ∀ (layer : SocketLayer) (req server port : String)
      (g_recvBuf : Buffer MAX_REC_BUFFER_SIZE),
      (HttpRequest_Req layer req server port g_recvBuf).ok = true →
      Exchanged layer req (HttpRequest_Req layer req server port g_recvBuf).g_recvBuf := by
  intro always
  have connected :
      ({ SocketLayer.succeeding [.data 72 [], .failed] with write := 3 }).connected := by decide
  have ok := (HttpRequest_Req_ok _ "GET" "server" "80" (Buffer.zero _)).mpr connected
  rcases (always _ _ _ _ _ ok).2 with ⟨text, closed, _⟩
  cases closed

end Network
end ToothVoca
