import ToothVoca.Library.RawMemory
import ToothVoca.Network.HttpReq

namespace ToothVoca
namespace Network

open Library

/-!
# Splitting a response into word and sentence (`req_word.c`)

The body of a response is `word:sentence`.  `ReqWord_ParseResponse` looks for
the first blank line, then for the first colon behind it, and copies the two
sides into the static arrays `word` and `sentence`.  It has three ways out
without a result and no return value: no blank line, no colon, and a word
that does not fit.  The last of them has cleared `word` already.

`Splits` states what a response says without any array: it is the grammar
that the parser is compared with.  `ReqWord_ParseResponse_cases` is the only
place where the parser is unfolded; everything later cites it.
-/

def MAX_BUFFER_SIZE : Nat := 2048

def WEB_SERVER : String := "172.30.1.13"
def WEB_PORT : String := "8080"
def WEB_PATH : String := "/word"

def REQUEST : String :=
  "GET " ++ WEB_PATH ++ " HTTP/1.0\r\n" ++
    "Host: " ++ WEB_SERVER ++ ":" ++ WEB_PORT ++ "\r\n" ++
    "User-Agent: esp-idf/1.0 esp32\r\n" ++
    "\r\n"

/-- The four bytes of the string `"\r\n\r\n"`. -/
def CRLFCRLF : List UInt8 := [13, 10, 13, 10]

/-- The character `':'`. -/
def COLON : UInt8 := 58

/-- The character `' '`. -/
def SPACE : UInt8 := 32

/-- The static arrays `word` and `sentence`. -/
structure WordSentence where
  word : Buffer 128
  sentence : Buffer 256
deriving DecidableEq

/-- Both arrays as their initializers leave them. -/
def WordSentence.initial : WordSentence :=
  ⟨Buffer.zero 128, Buffer.zero 256⟩

/-- The `word` array after `memset`, `strncpy` and the explicit terminator. -/
def storeWord (body_start : List UInt8) (word_len : Nat) (fits : word_len < 128) : Buffer 128 :=
  (CString.copyInto (Buffer.zero 128) body_start word_len (Nat.le_of_lt fits)).store
    word_len [0] fits

/-- The `sentence` array after `memset`, `strncpy` and the explicit
terminator. -/
def storeSentence (sentence_start : List UInt8) : Buffer 256 :=
  (CString.copyInto (Buffer.zero 256) sentence_start (256 - 1) (by decide)).store
    (256 - 1) [0] (by decide)

/-- The parser, as a map of the static arrays.  A pointer into `buf` is the
list of bytes from there on. -/
def ReqWord_ParseResponse (buf : List UInt8) (held : WordSentence) : WordSentence :=
  match CString.strstr buf CRLFCRLF with
  | none => held
  | some offset =>
      let body_start := buf.drop (offset + 4)
      match CString.strchr body_start COLON with
      | none => held
      | some word_len =>
          if fits : word_len < 128 then
            { word := storeWord body_start word_len fits
              sentence := storeSentence ((body_start.drop (word_len + 1)).dropWhile (· == SPACE)) }
          else
            { held with word := Buffer.zero 128 }

/-- The static data of `http_req.c` and `req_word.c`. -/
structure ReqWordState where
  g_recvBuf : Buffer MAX_REC_BUFFER_SIZE
  s_reqBodyBuf : Buffer MAX_BUFFER_SIZE
  held : WordSentence

def ReqWordState.initial : ReqWordState where
  g_recvBuf := Buffer.zero MAX_REC_BUFFER_SIZE
  s_reqBodyBuf := Buffer.zero MAX_BUFFER_SIZE
  held := WordSentence.initial

def ReqWord_Requset (layer : SocketLayer) (state : ReqWordState) : Bool × ReqWordState :=
  let request := HttpRequest_Req layer REQUEST WEB_SERVER WEB_PORT state.g_recvBuf
  if request.ok = false then
    (false, { state with g_recvBuf := request.g_recvBuf })
  else
    let got := HttpRequest_GetWord state.s_reqBodyBuf request.g_recvBuf
    if got.ok = false then
      (false, { state with g_recvBuf := got.g_recvBuf, s_reqBodyBuf := got.buf })
    else
      (true,
        { g_recvBuf := got.g_recvBuf
          s_reqBodyBuf := got.buf.store 0 [0] (by decide)
          held := ReqWord_ParseResponse got.buf.bytes state.held })

/-- The writes of `ReqWord_GetWord` through its argument: `strncpy` of the
whole word and the terminator behind it.  The size of the destination is not
known here. -/
def ReqWord_GetWord (held : WordSentence) : List RawMemory.Write :=
  let len := CString.strlen held.word.bytes
  RawMemory.block 0 (CString.strncpy held.word.bytes len) ++ [(len, 0)]

def ReqWord_GetSentence (held : WordSentence) : List RawMemory.Write :=
  let len := CString.strlen held.sentence.bytes
  RawMemory.block 0 (CString.strncpy held.sentence.bytes len) ++ [(len, 0)]

/-! ## The grammar of a response -/

/-- The response consists of a header that ends at its first blank line, a
word up to the first colon behind it, and a rest. -/
def Splits (text word rest : List UInt8) : Prop :=
  ∃ header, text = header ++ CRLFCRLF ++ (word ++ COLON :: rest) ∧
    CString.occurrence CRLFCRLF text = some header.length ∧ COLON ∉ word

/-- A response that yields a pair: the word fits the array `word`, and the
sentence is the rest without its leading spaces, cut to the array. -/
def Yields (text word sentence : List UInt8) : Prop :=
  ∃ rest, Splits text word rest ∧ word.length < 128 ∧
    sentence = (rest.dropWhile (· == SPACE)).take (256 - 1)

/-- A response splits in at most one way. -/
theorem Splits.unique {text word rest word' rest' : List UInt8}
    (first : Splits text word rest) (second : Splits text word' rest') :
    word = word' ∧ rest = rest' := by
  rcases first with ⟨header, shape, found, noColon⟩
  rcases second with ⟨header', shape', found', noColon'⟩
  have sameLength : header.length = header'.length :=
    Option.some.inj (found.symm.trans found')
  have bodies := (List.append_inj (shape.symm.trans shape')
    (by simp only [List.length_append, sameLength])).2
  have position := CString.occurrence_singleton noColon rest
  rw [bodies, CString.occurrence_singleton noColon' rest'] at position
  have parts := List.append_inj bodies (Option.some.inj position).symm
  exact ⟨parts.1, (List.cons.inj parts.2).2⟩

/-! ## The parser against the grammar -/

/-- Behind the blank line: the pointer `body_start` is at the body. -/
theorem content_body_start {buf body : List UInt8} {offset : Nat}
    (shape : CString.content buf = (CString.content buf).take offset ++ CRLFCRLF ++ body)
    (headerLength : ((CString.content buf).take offset).length = offset) :
    CString.content (buf.drop (offset + 4)) = body := by
  have prefixLength : ((CString.content buf).take offset ++ CRLFCRLF).length = offset + 4 := by
    rw [List.length_append, headerLength]
    rfl
  have inside : offset + 4 ≤ CString.strlen buf := by
    have lengths := congrArg List.length shape
    rw [List.length_append, prefixLength] at lengths
    unfold CString.strlen
    omega
  rw [CString.content_drop inside, shape, ← prefixLength, List.drop_left]

/-- The parser behind a blank line and a colon: only the length of the word
decides what is stored. -/
theorem ReqWord_ParseResponse_found {buf : List UInt8} {offset word_len : Nat}
    (blankLine : CString.strstr buf CRLFCRLF = some offset)
    (colon : CString.strchr (buf.drop (offset + 4)) COLON = some word_len) (held : WordSentence) :
    ReqWord_ParseResponse buf held =
      if fits : word_len < 128 then
        { word := storeWord (buf.drop (offset + 4)) word_len fits
          sentence := storeSentence
            (((buf.drop (offset + 4)).drop (word_len + 1)).dropWhile (· == SPACE)) }
      else { held with word := Buffer.zero 128 } := by
  rw [ReqWord_ParseResponse, blankLine]
  simp only [colon]

/-- The word in front of the colon is stored whole. -/
theorem content_storeWord {body_start word rest : List UInt8}
    (body : CString.content body_start = word ++ COLON :: rest) (fits : word.length < 128) :
    CString.content (storeWord body_start word.length fits).bytes = word := by
  rw [storeWord, CString.content_copyInto_store _ _ _ (Nat.le_refl word.length), body,
    List.take_left]

/-- The text behind the colon and its spaces is stored as far as it fits. -/
theorem content_storeSentence {body_start word rest : List UInt8}
    (body : CString.content body_start = word ++ COLON :: rest) :
    CString.content (storeSentence
        ((body_start.drop (word.length + 1)).dropWhile (· == SPACE))).bytes =
      (rest.dropWhile (· == SPACE)).take (256 - 1) := by
  have inside : word.length + 1 ≤ CString.strlen body_start := by
    unfold CString.strlen
    rw [body, List.length_append, List.length_cons]
    omega
  have behind : (word ++ COLON :: rest).drop (word.length + 1) = rest := by
    rw [List.drop_append, List.drop_of_length_le (Nat.le_succ _)]
    simp
  rw [storeSentence, CString.content_copyInto_store _ _ _ (Nat.le_refl _),
    CString.content_dropWhile (by decide), CString.content_drop inside, body, behind]

/-- The three outcomes of the parser.  A pair is stored together; a word that
is too long leaves `word` empty and the old `sentence` in place; a response
that does not split leaves both arrays alone. -/
theorem ReqWord_ParseResponse_cases (buf : List UInt8) (held : WordSentence) :
    (∃ word rest, Splits (CString.content buf) word rest ∧ word.length < 128 ∧
      CString.content (ReqWord_ParseResponse buf held).word.bytes = word ∧
      CString.content (ReqWord_ParseResponse buf held).sentence.bytes =
        (rest.dropWhile (· == SPACE)).take (256 - 1)) ∨
    (∃ word rest, Splits (CString.content buf) word rest ∧ 128 ≤ word.length ∧
      ReqWord_ParseResponse buf held = { held with word := Buffer.zero 128 }) ∨
    ((∀ word rest, ¬ Splits (CString.content buf) word rest) ∧
      ReqWord_ParseResponse buf held = held) := by
  have separator : CString.content CRLFCRLF = CRLFCRLF := by decide
  cases blankLine : CString.strstr buf CRLFCRLF with
  | none =>
      refine Or.inr (Or.inr ⟨?_, by rw [ReqWord_ParseResponse, blankLine]⟩)
      rintro word rest ⟨header, _, found, _⟩
      rw [CString.strstr, separator, found] at blankLine
      cases blankLine
  | some offset =>
      have found := blankLine
      rw [CString.strstr, separator] at found
      rcases CString.occurrence_split found with ⟨body, shape, headerLength⟩
      have bodyContent := content_body_start shape headerLength
      cases colon : CString.strchr (buf.drop (offset + 4)) COLON with
      | none =>
          refine Or.inr (Or.inr ⟨?_, ?_⟩)
          · rintro word rest ⟨header, shape', found', _⟩
            have sameLength : offset = header.length := Option.some.inj (found.symm.trans found')
            have bodies := (List.append_inj (shape.symm.trans shape')
              (by rw [List.length_append, List.length_append, headerLength, sameLength])).2
            apply CString.strchr_eq_none colon
            rw [bodyContent, bodies]
            simp
          · rw [ReqWord_ParseResponse, blankLine]
            simp only [colon]
      | some word_len =>
          rcases CString.strchr_eq_some colon with ⟨word, rest, split, wordLength, noColon⟩
          subst wordLength
          have parsed := ReqWord_ParseResponse_found blankLine colon held
          have splits : Splits (CString.content buf) word rest := by
            refine ⟨(CString.content buf).take offset, ?_, ?_, noColon⟩
            · rw [← split, bodyContent]
              exact shape
            · rw [headerLength]
              exact found
          by_cases fits : word.length < 128
          · refine Or.inl ⟨word, rest, splits, fits, ?_, ?_⟩
            · rw [parsed, dif_pos fits]
              exact content_storeWord split fits
            · rw [parsed, dif_pos fits]
              exact content_storeSentence split
          · refine Or.inr (Or.inl ⟨word, rest, splits, Nat.le_of_not_lt fits, ?_⟩)
            rw [parsed, dif_neg fits]

/-! ## The writes of the two getters -/

/-- A string copied without a size writes exactly the indices up to its
length. -/
theorem index_le_of_mem_copy {source : List UInt8} {write : RawMemory.Write}
    (member : write ∈ RawMemory.block 0 (CString.strncpy source (CString.strlen source)) ++
      [(CString.strlen source, 0)]) : write.1 ≤ CString.strlen source := by
  rcases List.mem_append.mp member with copied | terminator
  · have bound := RawMemory.index_lt_of_mem_block copied
    rw [CString.length_strncpy, Nat.zero_add] at bound
    exact Nat.le_of_lt bound
  · rw [List.mem_singleton.mp terminator]

theorem ReqWord_GetWord_index {held : WordSentence} {write : RawMemory.Write}
    (member : write ∈ ReqWord_GetWord held) : write.1 ≤ CString.strlen held.word.bytes :=
  index_le_of_mem_copy member

theorem ReqWord_GetWord_terminator (held : WordSentence) :
    (CString.strlen held.word.bytes, 0) ∈ ReqWord_GetWord held :=
  List.mem_append.mpr (Or.inr (List.mem_singleton.mpr rfl))

theorem ReqWord_GetSentence_index {held : WordSentence} {write : RawMemory.Write}
    (member : write ∈ ReqWord_GetSentence held) :
    write.1 ≤ CString.strlen held.sentence.bytes :=
  index_le_of_mem_copy member

/-! ## A whole request -/

theorem ReqWord_Requset_refused {layer : SocketLayer} (refused : ¬ layer.connected)
    (state : ReqWordState) :
    (ReqWord_Requset layer state).1 = false ∧
      (ReqWord_Requset layer state).2.held = state.held := by
  have failed : (HttpRequest_Req layer REQUEST WEB_SERVER WEB_PORT state.g_recvBuf).ok = false :=
    Bool.eq_false_iff.mpr fun ok => refused ((HttpRequest_Req_ok _ _ _ _ _).mp ok)
  rw [ReqWord_Requset, if_pos failed]
  exact ⟨rfl, rfl⟩

/-- Once the connection stands, a request always reports success, and the
static arrays are those the parser leaves for the response text. -/
theorem ReqWord_Requset_connected {layer : SocketLayer} (connected : layer.connected)
    (state : ReqWordState) :
    (ReqWord_Requset layer state).1 = true ∧
      ∃ buf, CString.content buf = responseText layer ∧
        (ReqWord_Requset layer state).2.held = ReqWord_ParseResponse buf state.held := by
  have ok := (HttpRequest_Req_ok layer REQUEST WEB_SERVER WEB_PORT state.g_recvBuf).mpr connected
  have text := HttpRequest_Req_content connected REQUEST WEB_SERVER WEB_PORT state.g_recvBuf
  have room : CString.strlen
      (HttpRequest_Req layer REQUEST WEB_SERVER WEB_PORT state.g_recvBuf).g_recvBuf.bytes <
        MAX_BUFFER_SIZE := by
    rw [CString.strlen, text]
    exact length_responseText_lt layer
  have copied := HttpRequest_GetWord_copied state.s_reqBodyBuf room
  rw [ReqWord_Requset, if_neg (by simp [ok]), if_neg (by simp [copied.1])]
  exact ⟨rfl, _, copied.2.1.trans text, rfl⟩

theorem ReqWord_Requset_ok {layer : SocketLayer} (state : ReqWordState) :
    (ReqWord_Requset layer state).1 = true ↔ layer.connected := by
  by_cases connected : layer.connected
  · simp only [(ReqWord_Requset_connected connected state).1, connected]
  · simp only [(ReqWord_Requset_refused connected state).1, connected, Bool.false_eq_true]

/-- A response that yields a pair leaves exactly that pair, whatever the
arrays held before. -/
theorem ReqWord_Requset_yields {layer : SocketLayer} {word sentence : List UInt8}
    (connected : layer.connected) (yields : Yields (responseText layer) word sentence)
    (state : ReqWordState) :
    CString.content (ReqWord_Requset layer state).2.held.word.bytes = word ∧
      CString.content (ReqWord_Requset layer state).2.held.sentence.bytes = sentence := by
  rcases (ReqWord_Requset_connected connected state).2 with ⟨buf, text, parsed⟩
  rcases yields with ⟨rest, splits, short, cut⟩
  rw [← text] at splits
  rw [parsed, cut]
  rcases ReqWord_ParseResponse_cases buf state.held with
    ⟨word', rest', splits', _, stored⟩ | ⟨word', rest', splits', long, _⟩ | ⟨none, _⟩
  · rcases splits.unique splits' with ⟨sameWord, sameRest⟩
    rw [sameWord, sameRest]
    exact stored
  · rw [(splits.unique splits').1] at short
    exact absurd long (Nat.not_le_of_lt short)
  · exact absurd splits (none word rest)

/-- Reads that deliver the chunks of a text one after the other and then the
peer's close. -/
def deliver (chunks : List (UInt8 × List UInt8)) (later : List ReadEvent) : List ReadEvent :=
  chunks.map (fun chunk => .data chunk.1 chunk.2) ++ .closed :: later

theorem stream_deliver (chunks : List (UInt8 × List UInt8)) (later : List ReadEvent) :
    stream (deliver chunks later) = chunks.flatMap fun chunk => chunk.1 :: chunk.2 := by
  induction chunks with
  | nil => rfl
  | cons chunk rest ih =>
      rw [List.flatMap_cons, ← ih]
      rfl

/-- A well-formed response is stored as its word and its sentence, for every
division into reads and every earlier content of the static arrays.  Colons
in the header are in front of the blank line and play no part. -/
theorem ReqWord_Requset_stores (header word rest : List UInt8)
    (headerFree : CString.NulFree header) (wordFree : CString.NulFree word)
    (restFree : CString.NulFree rest)
    (first : ∀ earlier < header.length,
      ¬ CRLFCRLF <+: (header ++ CRLFCRLF ++ word ++ [COLON] ++ rest).drop earlier)
    (noColon : COLON ∉ word) (short : word.length ≤ 127)
    (total : (header ++ CRLFCRLF ++ word ++ [COLON] ++ rest).length ≤ 2047)
    (layer : SocketLayer) (connected : layer.connected)
    (chunks : List (UInt8 × List UInt8)) (later : List ReadEvent)
    (reads : layer.reads = deliver chunks later)
    (cut : chunks.flatMap (fun chunk => chunk.1 :: chunk.2) =
      header ++ CRLFCRLF ++ word ++ [COLON] ++ rest)
    (state : ReqWordState) :
    (ReqWord_Requset layer state).1 = true ∧
      CString.content (ReqWord_Requset layer state).2.held.word.bytes = word ∧
      CString.content (ReqWord_Requset layer state).2.held.sentence.bytes =
        (rest.dropWhile (· == SPACE)).take 255 := by
  have regroup : header ++ CRLFCRLF ++ word ++ [COLON] ++ rest =
      header ++ CRLFCRLF ++ (word ++ COLON :: rest) := by
    simp only [List.append_assoc, List.singleton_append]
  have free : CString.NulFree (header ++ CRLFCRLF ++ word ++ [COLON] ++ rest) := by
    simp only [CString.nulFree_append]
    exact ⟨⟨⟨⟨headerFree, by decide⟩, wordFree⟩, by decide⟩, restFree⟩
  have text : responseText layer = header ++ CRLFCRLF ++ word ++ [COLON] ++ rest := by
    rw [responseText, received, reads, stream_deliver, cut,
      List.take_of_length_le (by exact total), CString.content_eq_self free]
  have splits : Splits (responseText layer) word rest := by
    refine ⟨header, by rw [text, regroup], ?_, noColon⟩
    rw [text, regroup]
    rw [regroup] at first
    exact CString.occurrence_of_split first
  have stored := ReqWord_Requset_yields connected
    ⟨rest, splits, Nat.lt_succ_of_le short, rfl⟩ state
  exact ⟨(ReqWord_Requset_ok state).mpr connected, stored⟩

/-- A header with a colon of its own, and a stream cut in the middle of the
blank line. -/
theorem ReqWord_Requset_stores_cut :
    (ReqWord_Requset (SocketLayer.succeeding
        (deliver [(65, [58, 66, 13, 10]), (13, [10, 97, 58, 32, 98])] [])) .initial).1 = true ∧
      CString.content (ReqWord_Requset (SocketLayer.succeeding
        (deliver [(65, [58, 66, 13, 10]), (13, [10, 97, 58, 32, 98])] []))
        .initial).2.held.word.bytes = [97] ∧
      CString.content (ReqWord_Requset (SocketLayer.succeeding
        (deliver [(65, [58, 66, 13, 10]), (13, [10, 97, 58, 32, 98])] []))
        .initial).2.held.sentence.bytes = ([32, 98].dropWhile (· == SPACE)).take 255 :=
  ReqWord_Requset_stores [65, 58, 66] [97] [32, 98] (by decide) (by decide) (by decide)
    (by decide) (by decide) (by decide) (by decide) _ (by decide)
    [(65, [58, 66, 13, 10]), (13, [10, 97, 58, 32, 98])] [] rfl rfl .initial

end Network
end ToothVoca
