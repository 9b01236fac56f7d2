import ToothVoca.Display.Repertoire
import ToothVoca.Network.ReqWord

namespace ToothVoca
namespace Network

open Library Display

/-!
# Where the byte limits cut a sentence

A response is cut twice: the receive loop keeps its first 2047 bytes, and the
parser keeps 255 bytes of the sentence behind its leading spaces.  Both limits
count bytes, and a syllable has three of them.  Together they are one limit on
the sentence, and the last character is whole unless the limit falls inside of
it.
-/

theorem length_CRLFCRLF : CRLFCRLF.length = 4 :=
  rfl

section Take

variable {header word rest : List UInt8} {count : Nat}

/-- A response cut behind its colon splits into the same word and the front of
the rest. -/
theorem splits_take
    (found : CString.occurrence CRLFCRLF (header ++ CRLFCRLF ++ (word ++ COLON :: rest)) =
      some header.length)
    (noColon : COLON ∉ word) (enough : header.length + word.length + 5 ≤ count) :
    Splits ((header ++ CRLFCRLF ++ (word ++ COLON :: rest)).take count) word
      (rest.take (count - (header.length + word.length + 5))) := by
  have shape : (header ++ CRLFCRLF ++ (word ++ COLON :: rest)).take count =
      header ++ CRLFCRLF ++
        (word ++ COLON :: rest.take (count - (header.length + word.length + 5))) := by
    have regroup (rest : List UInt8) : header ++ CRLFCRLF ++ (word ++ COLON :: rest) =
        header ++ CRLFCRLF ++ word ++ [COLON] ++ rest := by
      simp only [List.append_assoc, List.singleton_append]
    have length : (header ++ CRLFCRLF ++ word ++ [COLON]).length =
        header.length + word.length + 5 := by
      simp only [List.length_append, List.length_singleton, length_CRLFCRLF]
      omega
    rw [regroup, regroup, List.take_append, length, List.take_of_length_le]
    rw [length]
    exact enough
  refine ⟨header, shape, ?_, noColon⟩
  rw [shape]
  apply CString.occurrence_of_split
  intro earlier before there
  rw [← shape, List.drop_take, List.prefix_take_iff] at there
  exact (CString.occurrence_eq_some found).2.2 earlier before there.1

/-- A response cut in front of its colon does not split. -/
theorem length_of_splits_take {word' rest' : List UInt8}
    (found : CString.occurrence CRLFCRLF (header ++ CRLFCRLF ++ (word ++ COLON :: rest)) =
      some header.length)
    (noColon : COLON ∉ word)
    (splits : Splits ((header ++ CRLFCRLF ++ (word ++ COLON :: rest)).take count) word' rest') :
    header.length + word.length + 5 ≤ count := by
  rcases splits with ⟨header', shape, found', noColon'⟩
  have sameHeader : header.length = header'.length :=
    Option.some.inj (found.symm.trans (CString.occurrence_of_take found'))
  have body : (word ++ COLON :: rest).take (count - (header.length + 4)) =
      word' ++ COLON :: rest' := by
    have front : (header ++ CRLFCRLF).length = header.length + 4 := List.length_append
    have front' : (header' ++ CRLFCRLF).length = header.length + 4 := by
      rw [sameHeader]
      exact List.length_append
    have dropped := congrArg (List.drop (header.length + 4)) shape
    rwa [List.drop_take, ← front, List.drop_left, front, ← front', List.drop_left, front']
      at dropped
  have sameWord : word.length = word'.length := by
    have position := CString.occurrence_singleton noColon' rest'
    rw [← body] at position
    have whole := CString.occurrence_of_take position
    rw [CString.occurrence_singleton noColon rest] at whole
    exact Option.some.inj whole
  have lengths := congrArg List.length body
  simp only [List.length_take, List.length_append, List.length_cons] at lengths
  omega

/-- A cut response that splits holds the header and the word, so that neither of
them contains the terminator. -/
theorem nulFree_of_splits {text word' rest' : List UInt8}
    (found : CString.occurrence CRLFCRLF (header ++ CRLFCRLF ++ (word ++ COLON :: rest)) =
      some header.length)
    (noColon : COLON ∉ word) (front : text <+: header ++ CRLFCRLF ++ (word ++ COLON :: rest))
    (free : CString.NulFree text) (splits : Splits text word' rest') :
    CString.NulFree header ∧ CString.NulFree word := by
  have cut := List.prefix_iff_eq_take.mp front
  rw [cut] at splits
  have enough := length_of_splits_take found noColon splits
  have whole : header ++ CRLFCRLF ++ word <+: header ++ CRLFCRLF ++ (word ++ COLON :: rest) :=
    ⟨COLON :: rest, by simp only [List.append_assoc]⟩
  have inside : header ++ CRLFCRLF ++ word <+: text := by
    apply List.prefix_of_prefix_length_le whole front
    simp only [List.length_append, length_CRLFCRLF]
    omega
  have parts : CString.NulFree (header ++ CRLFCRLF ++ word) :=
    fun member => free (inside.subset member)
  simp only [CString.nulFree_append] at parts
  exact ⟨parts.1.1, parts.2⟩

end Take

/-! ## The two limits as one -/

section Response

variable {header word : List UInt8} {sentence : List Char} {layer : SocketLayer}

/-- The limit on the bytes of a sentence without its leading spaces, behind a
header and a word of the given lengths. -/
def sentenceLimit (header word : List UInt8) (sentence : List Char) : Nat :=
  min 255 (2047 - (header.length + word.length + 5) - (sentence.takeWhile (· == ' ')).length)

/-- The stored sentence, where one is stored at all, is the sentence without
leading spaces up to the end of one of its characters. -/
def CutAtCharacter (layer : SocketLayer) (state : ReqWordState) (sentence : List Char) : Prop :=
  layer.connected → (∃ word stored, Yields (responseText layer) word stored) →
    ∃ front, front <+: sentence.dropWhile (· == ' ') ∧
      CString.content (ReqWord_Requset layer state).2.held.sentence.bytes = Utf8.encode front

/-- A pair is stored exactly where the word fits its array and the colon is
received. -/
theorem yields_iff
    (found : CString.occurrence CRLFCRLF
      (header ++ CRLFCRLF ++ (word ++ COLON :: Utf8.encode sentence)) = some header.length)
    (noColon : COLON ∉ word)
    (text : responseText layer =
      (header ++ CRLFCRLF ++ (word ++ COLON :: Utf8.encode sentence)).take 2047) :
    (∃ word' stored, Yields (responseText layer) word' stored) ↔
      word.length ≤ 127 ∧ header.length + word.length + 5 ≤ 2047 := by
  rw [text]
  constructor
  · rintro ⟨word', stored, rest', splits, short, _⟩
    have enough := length_of_splits_take found noColon splits
    rw [(splits.unique (splits_take found noColon enough)).1] at short
    exact ⟨Nat.le_of_lt_succ short, enough⟩
  · rintro ⟨short, enough⟩
    exact ⟨word, _, _, splits_take found noColon enough, Nat.lt_succ_of_le short, rfl⟩

theorem stored_sentence
    (found : CString.occurrence CRLFCRLF
      (header ++ CRLFCRLF ++ (word ++ COLON :: Utf8.encode sentence)) = some header.length)
    (noColon : COLON ∉ word) (short : word.length ≤ 127)
    (enough : header.length + word.length + 5 ≤ 2047)
    (text : responseText layer =
      (header ++ CRLFCRLF ++ (word ++ COLON :: Utf8.encode sentence)).take 2047)
    (connected : layer.connected) (state : ReqWordState) :
    CString.content (ReqWord_Requset layer state).2.held.sentence.bytes =
      (Utf8.encode (sentence.dropWhile (· == ' '))).take (sentenceLimit header word sentence) := by
  have splits := splits_take found noColon enough
  rw [← text] at splits
  have stored := ReqWord_Requset_yields connected
    ⟨_, splits, Nat.lt_succ_of_le short, rfl⟩ state
  have space : String.utf8EncodeChar ' ' = [SPACE] := by decide +kernel
  rw [stored.2, Utf8.dropWhile_take_encode space, List.take_take]
  rfl

/-- The stored sentence ends at a character exactly where the limit does not fall
inside of one. -/
theorem cutAtCharacter_iff
    (found : CString.occurrence CRLFCRLF
      (header ++ CRLFCRLF ++ (word ++ COLON :: Utf8.encode sentence)) = some header.length)
    (noColon : COLON ∉ word)
    (text : responseText layer =
      (header ++ CRLFCRLF ++ (word ++ COLON :: Utf8.encode sentence)).take 2047)
    (state : ReqWordState) :
    CutAtCharacter layer state sentence ↔
      (layer.connected → word.length ≤ 127 → header.length + word.length + 5 ≤ 2047 →
        Utf8.cutInside (sentence.dropWhile (· == ' ')) (sentenceLimit header word sentence) =
          false) := by
  unfold CutAtCharacter
  refine forall_congr' fun connected => ?_
  rw [yields_iff found noColon text, and_imp]
  refine forall_congr' fun short => forall_congr' fun enough => ?_
  rw [stored_sentence found noColon short enough text connected state, Utf8.take_encode_iff]

end Response

/-- For every header, every word and every supported sentence, however long the
response is: the stored sentence ends at a character exactly where the limit
does not fall inside of one. -/
theorem sentence_cut_iff (header word : List UInt8) (sentence : List Char)
    (supported : SupportedText sentence)
    (first : ∀ earlier < header.length,
      ¬ CRLFCRLF <+:
        (header ++ CRLFCRLF ++ word ++ [COLON] ++ Utf8.encode sentence).drop earlier)
    (noColon : COLON ∉ word) (layer : SocketLayer)
    (response : stream layer.reads =
      header ++ CRLFCRLF ++ word ++ [COLON] ++ Utf8.encode sentence)
    (state : ReqWordState) :
    CutAtCharacter layer state sentence ↔
      (CString.NulFree header → CString.NulFree word → layer.connected → word.length ≤ 127 →
        header.length + word.length + 5 ≤ 2047 →
        Utf8.cutInside (sentence.dropWhile (· == ' ')) (sentenceLimit header word sentence) =
          false) := by
  have regroup : header ++ CRLFCRLF ++ word ++ [COLON] ++ Utf8.encode sentence =
      header ++ CRLFCRLF ++ (word ++ COLON :: Utf8.encode sentence) := by
    simp only [List.append_assoc, List.singleton_append]
  rw [regroup] at first response
  have found := CString.occurrence_of_split first
  by_cases parts : CString.NulFree header ∧ CString.NulFree word
  · have free : CString.NulFree
        (header ++ CRLFCRLF ++ (word ++ [COLON] ++ Utf8.encode sentence)) := by
      simp only [CString.nulFree_append]
      exact ⟨⟨parts.1, by decide⟩, ⟨parts.2, by decide⟩, supported.nulFree⟩
    rw [List.append_assoc word, List.singleton_append] at free
    rw [cutAtCharacter_iff found noColon (responseText_of_nulFree response free) state]
    exact ⟨fun whole _ _ => whole, fun whole => whole parts.1 parts.2⟩
  · -- the response ends inside its header or its word, and nothing is stored
    refine iff_of_true ?_ fun headerFree wordFree => absurd ⟨headerFree, wordFree⟩ parts
    rintro _ ⟨word', stored, rest', splits, _⟩
    have front := responseText_prefix layer
    rw [response] at front
    exact absurd (nulFree_of_splits found noColon front (CString.content_nulFree _) splits) parts

/-- The response `\r\n\r\na:가`: the whole sentence is stored. -/
theorem sentence_cut_iff_short :
    CutAtCharacter (.succeeding [.data 13 [10, 13, 10, 97, 58, 234, 176, 128], .closed]) .initial
      ['가'] :=
  (sentence_cut_iff [] [97] ['가'] (by decide)
    (fun earlier inside => absurd inside (Nat.not_lt_zero earlier)) (by decide) _ (by decide)
    .initial).mpr fun _ _ _ _ _ => by decide +kernel

/-- One letter and 85 syllables are 256 bytes, one more than the parser keeps. -/
theorem sentence_not_cut_at_character :
    ¬ ∀ (header word : List UInt8) (sentence : List Char), SupportedText sentence →
      (∀ earlier < header.length,
        ¬ CRLFCRLF <+:
          (header ++ CRLFCRLF ++ word ++ [COLON] ++ Utf8.encode sentence).drop earlier) →
      COLON ∉ word → ∀ layer : SocketLayer,
      stream layer.reads = header ++ CRLFCRLF ++ word ++ [COLON] ++ Utf8.encode sentence →
      ∀ state, CutAtCharacter layer state sentence := by
  intro always
  have cut := always [] [97] ('a' :: List.replicate 85 '가') (by decide +kernel)
    (fun earlier inside => absurd inside (Nat.not_lt_zero earlier)) (by decide)
    (.succeeding [.data 13 ([10, 13, 10, 97, 58] ++ Utf8.encode ('a' :: List.replicate 85 '가')),
      .closed]) (by decide +kernel) .initial
  have found : CString.occurrence CRLFCRLF
      ([] ++ CRLFCRLF ++ ([97] ++ COLON :: Utf8.encode ('a' :: List.replicate 85 '가'))) =
        some ([] : List UInt8).length := by decide +kernel
  have limit := (cutAtCharacter_iff found (by decide) (by decide +kernel) .initial).mp cut
    (by decide) (by decide) (by decide)
  exact absurd limit (by decide +kernel)

end Network
end ToothVoca
