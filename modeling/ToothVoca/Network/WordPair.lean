import ToothVoca.Library.Transition
import ToothVoca.Network.ReqWord

namespace ToothVoca
namespace Network

open Library

/-!
# Which pair the static arrays hold

The parser stores a pair or gives up, and giving up should leave both arrays
alone.  Two of its three early returns do.  The third one, on a word that does
not fit, stands behind the `memset` of `word`: it keeps the old sentence and
clears the word that belonged to it.

As long as that return is taken with an empty `word` only, the two arrays hold
the pair of one response, over any sequence of responses.
-/

/-- Both arrays are set from the response, or it yields no pair and both are
exactly as they were. -/
def Atomic (buf : List UInt8) (held : WordSentence) : Prop :=
  Yields (CString.content buf)
      (CString.content (ReqWord_ParseResponse buf held).word.bytes)
      (CString.content (ReqWord_ParseResponse buf held).sentence.bytes) ∨
    (∀ word sentence, ¬ Yields (CString.content buf) word sentence) ∧
      ReqWord_ParseResponse buf held = held

/-- A word too long to be stored arrives only while the array `word` is
cleared. -/
def KeepsPair (held : WordSentence) (buf : List UInt8) : Prop :=
  ∀ word rest, Splits (CString.content buf) word rest → 128 ≤ word.length →
    held.word = Buffer.zero 128

/-- Nothing has been stored yet, or the two strings are the pair of one
response. -/
def OnePair (held : WordSentence) : Prop :=
  held = WordSentence.initial ∨
    ∃ text, Yields text (CString.content held.word.bytes) (CString.content held.sentence.bytes)

/-- A response with a word too long yields no pair. -/
theorem Splits.not_yields {text word rest : List UInt8} (splits : Splits text word rest)
    (long : 128 ≤ word.length) (word' sentence : List UInt8) : ¬ Yields text word' sentence := by
  rintro ⟨rest', splits', short, _⟩
  rw [(splits'.unique splits).1] at short
  exact absurd long (Nat.not_le_of_lt short)

theorem atomic_iff (buf : List UInt8) (held : WordSentence) :
    Atomic buf held ↔ KeepsPair held buf := by
  rcases ReqWord_ParseResponse_cases buf held with
    ⟨word, rest, splits, short, wordStored, sentenceStored⟩ | ⟨word, rest, splits, long, cleared⟩ |
    ⟨none, kept⟩
  · have atomic : Atomic buf held := by
      apply Or.inl
      rw [wordStored, sentenceStored]
      exact ⟨rest, splits, short, rfl⟩
    refine iff_of_true atomic ?_
    intro word' rest' splits' long
    rw [(splits'.unique splits).1] at long
    exact absurd long (Nat.not_le_of_lt short)
  · constructor
    · rintro (yields | ⟨_, kept⟩)
      · exact absurd yields (splits.not_yields long _ _)
      · intro word' rest' _ _
        rw [← kept, cleared]
    · intro keeps
      refine Or.inr ⟨splits.not_yields long, ?_⟩
      rw [cleared, ← keeps word rest splits long]
  · have atomic : Atomic buf held := by
      refine Or.inr ⟨?_, kept⟩
      rintro word sentence ⟨rest, splits, _⟩
      exact none word rest splits
    exact iff_of_true atomic fun word rest splits _ => absurd splits (none word rest)

/-- An atomic response keeps the arrays at one pair. -/
theorem OnePair.parse {buf : List UInt8} {held : WordSentence} (pair : OnePair held)
    (atomic : Atomic buf held) : OnePair (ReqWord_ParseResponse buf held) := by
  rcases atomic with yields | ⟨_, kept⟩
  · exact Or.inr ⟨_, yields⟩
  · rw [kept]
    exact pair

/-- The word of a response and what is behind it. -/
def splitResponse (text : List UInt8) : Option (List UInt8 × List UInt8) :=
  (CString.occurrence CRLFCRLF text).bind fun offset =>
    let body := text.drop (offset + CRLFCRLF.length)
    (CString.occurrence [COLON] body).map fun colon => (body.take colon, body.drop (colon + 1))

theorem splitResponse_eq_some_iff {text word rest : List UInt8} :
    splitResponse text = some (word, rest) ↔ Splits text word rest := by
  constructor
  · intro split
    rcases Option.bind_eq_some_iff.mp split with ⟨offset, found, split⟩
    rcases Option.map_eq_some_iff.mp split with ⟨colon, inBody, same⟩
    cases same
    rcases CString.occurrence_split found with ⟨after, shape, length⟩
    have body : text.drop (offset + CRLFCRLF.length) = after := by
      have front : (text.take offset ++ CRLFCRLF).length = offset + CRLFCRLF.length := by
        rw [List.length_append, length]
      rw [← front]
      exact congrArg (List.drop _) shape |>.trans (List.drop_left)
    rw [body] at inBody ⊢
    rcases CString.occurrence_split inBody with ⟨rest, shape', length'⟩
    have behind : after.drop (colon + 1) = rest := by
      have front : (after.take colon ++ [COLON]).length = colon + 1 := by
        rw [List.length_append, length', List.length_singleton]
      rw [← front]
      exact congrArg (List.drop _) shape' |>.trans (List.drop_left)
    rw [behind]
    refine ⟨text.take offset, ?_, by rw [length]; exact found, ?_⟩
    · rw [List.append_assoc, List.singleton_append] at shape'
      rw [← shape']
      exact shape
    · intro member
      rcases List.getElem_of_mem member with ⟨earlier, inside, value⟩
      have small : earlier < colon := by
        rw [List.length_take] at inside
        omega
      apply (CString.occurrence_eq_some inBody).2.2 earlier small
      rw [List.getElem_take] at value
      have bound : earlier < after.length := by
        rw [List.length_take] at inside
        omega
      rw [List.drop_eq_getElem_cons bound, value]
      exact ⟨_, rfl⟩
  · rintro ⟨header, shape, found, noColon⟩
    have body : text.drop (header.length + CRLFCRLF.length) = word ++ COLON :: rest := by
      rw [← List.length_append, shape]
      exact List.drop_left
    have behind : (word ++ COLON :: rest).drop (word.length + 1) = rest := by
      rw [List.drop_append, List.drop_of_length_le (Nat.le_succ _), Nat.add_sub_cancel_left]
      rfl
    rw [splitResponse, found, Option.bind_some]
    simp only [body, CString.occurrence_singleton noColon, Option.map_some, List.take_left, behind]

/-- The pair behind a response: its own, the old sentence without a word where its word
is too long, or the old pair. -/
def heldNext (text : List UInt8) (pair : List UInt8 × List UInt8) : List UInt8 × List UInt8 :=
  match splitResponse text with
  | none => pair
  | some (word, rest) =>
      if word.length < 128 then (word, (rest.dropWhile (· == SPACE)).take (256 - 1))
      else ([], pair.2)

def heldPair (held : WordSentence) : List UInt8 × List UInt8 :=
  (CString.content held.word.bytes, CString.content held.sentence.bytes)

/-- The parser follows it on the strings. -/
theorem heldPair_parse (buf : List UInt8) (held : WordSentence) :
    heldPair (ReqWord_ParseResponse buf held) =
      heldNext (CString.content buf) (heldPair held) := by
  rcases ReqWord_ParseResponse_cases buf held with
    ⟨word, rest, splits, short, wordStored, sentenceStored⟩ | ⟨word, rest, splits, long, cleared⟩ |
    ⟨none, kept⟩
  · rw [heldNext, splitResponse_eq_some_iff.mpr splits, heldPair, wordStored, sentenceStored]
    exact (if_pos short).symm
  · have empty : CString.content (Buffer.zero 128).bytes = [] := by decide
    rw [heldNext, splitResponse_eq_some_iff.mpr splits, cleared, heldPair, empty]
    exact (if_neg (Nat.not_lt_of_le long)).symm
  · have missing : splitResponse (CString.content buf) = Option.none := by
      cases split : splitResponse (CString.content buf) with
      | none => rfl
      | some parts => exact absurd (splitResponse_eq_some_iff.mp split) (none parts.1 parts.2)
    rw [heldNext, missing, kept]

/-- A request that is connected moves the pair, and one that is not keeps it. -/
theorem heldPair_request (layer : SocketLayer) (state : ReqWordState) :
    heldPair (ReqWord_Requset layer state).2.held =
      if layer.connected then heldNext (responseText layer) (heldPair state.held)
      else heldPair state.held := by
  by_cases connected : layer.connected
  · rcases (ReqWord_Requset_connected connected state).2 with ⟨buf, text, parsed⟩
    rw [if_pos connected, parsed, heldPair_parse, text]
  · rw [if_neg connected, (ReqWord_Requset_refused connected state).2]

end Network
end ToothVoca
