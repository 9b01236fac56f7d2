import ToothVoca.Library.Lifetime
import ToothVoca.Network.ReqWord

namespace ToothVoca
namespace Network

open Library

/-!
# The socket and the address list of a request (`http_req.c`)

`HttpRequest_Req` obtains an address list from `getaddrinfo` and a socket from
`socket`, and on each of its six ways out it is to have released both, each of them
once.  Here its calls are read as accesses to the two objects.  Whether a call creates
one depends on what the socket layer answers, and the answer also decides which way
is taken.

The two variables are local: what they hold is lost with the next request, and an
object that is still alive then stays so for ever.
-/

inductive SocketHandle where
  | res
  | s
deriving DecidableEq, Repr

/-- What a call does with the two objects.  The address of the list is also read for the
log. -/
def SocketCall.accesses (layer : SocketLayer) : SocketCall → List (Lifetime.Access SocketHandle)
  | .getaddrinfo _ _ =>
      if layer.err ≠ 0 ∨ layer.resNull then [] else [.create .res, .use .res]
  | .socket => .use .res :: if layer.socket < 0 then [] else [.create .s]
  | .connect => [.use .s, .use .res]
  | .freeaddrinfo => [.release .res]
  | .write _ | .setsockopt _ | .read _ _ => [.use .s]
  | .close => [.release .s]

/-- The accesses of one request. -/
def requestAccesses (layer : SocketLayer) (request : ReqWordState) :
    List (Lifetime.Access SocketHandle) :=
  (HttpRequest_Req layer REQUEST WEB_SERVER WEB_PORT request.g_recvBuf).calls.flatMap
    (SocketCall.accesses layer)

structure RequestLife where
  request : ReqWordState
  store : Lifetime.Store SocketHandle

def RequestLife.initial : RequestLife :=
  ⟨.initial, .initial⟩

/-- One call of `ReqWord_Requset`. -/
def requestNext (before : RequestLife) (layer : SocketLayer) : RequestLife where
  request := (ReqWord_Requset layer before.request).2
  store := before.store.accessAll (requestAccesses layer before.request)

/-- Requests from the start of the program. -/
def requestRun (layers : List SocketLayer) : RequestLife :=
  layers.foldl requestNext .initial

/-! ## One request -/

def noneAlive : SocketHandle → Bool :=
  fun _ => false

/-- The socket alone. -/
def socketAlive : SocketHandle → Bool :=
  Function.update noneAlive .s true

/-- The calls in front of the receive loop, up to the address list's release. -/
theorem tidy_connected :
    Lifetime.Tidy noneAlive
      [.create .res, .use .res, .use .res, .create .s, .use .s, .use .res, .release .res]
      socketAlive where
  ends := by
    funext handle
    cases handle <;> rfl
  misused := rfl
  leaked := rfl

theorem tidy_close : Lifetime.Tidy socketAlive [.release .s] noneAlive where
  ends := by
    funext handle
    cases handle <;> rfl
  misused := rfl
  leaked := rfl

/-- Calls on the open socket. -/
theorem tidy_socket (count : Nat) :
    Lifetime.Tidy socketAlive ((List.replicate count SocketHandle.s).map .use) socketAlive := by
  apply Lifetime.Tidy.uses
  intro handle member
  rw [List.eq_of_mem_replicate member]
  rfl

/-- The receive loop uses the socket. -/
theorem recvLoop_accesses (layer : SocketLayer) (g_recvBuf : Buffer MAX_REC_BUFFER_SIZE) :
    ∃ count, (recvLoop layer.reads (RecvState.initial g_recvBuf)).calls.flatMap
        (SocketCall.accesses layer) = (List.replicate count SocketHandle.s).map .use := by
  rcases recvLoop_calls layer.reads (RecvState.initial g_recvBuf)
    (show 0 < MAX_REC_BUFFER_SIZE - 1 by decide) with ⟨issued, calls, bound, asked⟩
  have initially : (RecvState.initial g_recvBuf).calls = [] := rfl
  rw [calls, initially, List.nil_append]
  clear calls bound
  induction issued with
  | nil => exact ⟨0, rfl⟩
  | cons call rest ih =>
      rw [List.forall_mem_cons] at asked
      rcases ih asked.2 with ⟨count, uses⟩
      rcases asked.1 with ⟨offset, size, isRead, _⟩
      refine ⟨count + 1, ?_⟩
      rw [List.flatMap_cons, uses, isRead]
      rfl

/-- Whatever the socket layer answers, a request releases what it obtained, once, and
uses nothing else. -/
theorem request_tidy (layer : SocketLayer) (request : ReqWordState) :
    Lifetime.Tidy noneAlive (requestAccesses layer request) noneAlive := by
  have through (count : Nat) := tidy_connected.append ((tidy_socket count).append tidy_close)
  rw [requestAccesses, HttpRequest_Req]
  by_cases looked : layer.err ≠ 0 ∨ layer.resNull
  · simp only [if_pos looked, List.flatMap_cons, List.flatMap_nil, SocketCall.accesses]
    exact ⟨rfl, rfl, rfl⟩
  by_cases opened : layer.socket < 0
  · simp only [if_neg looked, if_pos opened, List.flatMap_cons, List.flatMap_nil,
      SocketCall.accesses]
    refine ⟨?_, rfl, rfl⟩
    funext handle
    cases handle <;> rfl
  by_cases connected : layer.connect ≠ 0
  · simp only [if_neg looked, if_neg opened, if_pos connected, List.flatMap_cons,
      List.flatMap_nil, SocketCall.accesses]
    refine ⟨?_, rfl, rfl⟩
    funext handle
    cases handle <;> rfl
  by_cases written : layer.write < 0
  · simp only [if_neg looked, if_neg opened, if_neg connected, if_pos written,
      List.flatMap_cons, List.flatMap_nil, SocketCall.accesses]
    exact through 1
  by_cases timed : layer.setsockopt < 0
  · simp only [if_neg looked, if_neg opened, if_neg connected, if_neg written, if_pos timed,
      List.flatMap_cons, List.flatMap_nil, SocketCall.accesses]
    exact through 2
  rcases recvLoop_accesses layer request.g_recvBuf with ⟨count, reads⟩
  simp only [if_neg looked, if_neg opened, if_neg connected, if_neg written, if_neg timed,
    List.flatMap_append, reads, List.flatMap_cons, List.flatMap_nil, SocketCall.accesses]
  have whole := tidy_connected.append
    (((tidy_socket 2).append (tidy_socket count)).append tidy_close)
  exact whole

/-! ## Any number of requests -/

/-- Between two requests. -/
structure Settled (store : Lifetime.Store SocketHandle) : Prop where
  distinct : store.Distinct
  owned : store.Owned
  alive : store.alive = noneAlive
  misuses : store.misuses = []

theorem settled_initial : Settled .initial where
  distinct := Lifetime.Store.distinct_initial
  owned := Lifetime.Store.owned_initial
  alive := rfl
  misuses := rfl

theorem Settled.next {before : RequestLife} (settled : Settled before.store)
    (layer : SocketLayer) : Settled (requestNext before layer).store := by
  have tidy := request_tidy layer before.request
  rw [← settled.alive] at tidy
  rcases Lifetime.Store.accessAll_tidy tidy settled.distinct settled.owned with
    ⟨distinct, owned, alive, misuses⟩
  exact ⟨distinct, owned, alive.trans settled.alive, misuses.trans settled.misuses⟩

theorem settled_run (layers : List SocketLayer) : Settled (requestRun layers).store := by
  have preserved (before : RequestLife) (settled : Settled before.store) :
      Settled (layers.foldl requestNext before).store := by
    induction layers generalizing before with
    | nil => exact settled
    | cons layer rest ih => exact ih _ (settled.next layer)
  exact preserved .initial settled_initial

/-- However many requests were made and whatever the socket layer answered, between two
of them every socket and every address list that was ever obtained is released.  Up to
any call of the next one, no object was used or released that was not alive, and what
is alive is in one of the two variables. -/
theorem requests_release (layers : List SocketLayer) (layer : SocketLayer) (count : Nat) :
    let before := requestRun layers
    let calls := (HttpRequest_Req layer REQUEST WEB_SERVER WEB_PORT before.request.g_recvBuf).calls
    let during := before.store.accessAll
      ((calls.take count).flatMap (SocketCall.accesses layer))
    (∀ object : Nat, before.store.objects[object]? ≠ some true) ∧ during.misuses = [] ∧
      during.Owned := by
  intro before calls during
  have settled := settled_run layers
  have tidy : Lifetime.Tidy noneAlive (calls.flatMap (SocketCall.accesses layer)) noneAlive :=
    request_tidy layer before.request
  rw [← List.take_append_drop count calls, List.flatMap_append, ← settled.alive] at tidy
  rcases Lifetime.Store.accessAll_tidy tidy.front settled.distinct settled.owned with
    ⟨_, owned, _, misuses⟩
  refine ⟨?_, misuses.trans settled.misuses, owned⟩
  exact settled.owned.released fun handle => congrFun settled.alive handle

end Network
end ToothVoca
