import ToothVoca.Display.Utf8Text

namespace ToothVoca
namespace Display

open Library

/-!
# Where the decoder takes three bytes

A byte `1110xxxx` with two bytes `10xxxxxx` behind it is the only form of three
bytes.  The lead test of `ParserChar_IsKoreanText` lets `1000xxxx`, `1010xxxx`
and `1100xxxx` pass as well, and the first subtraction then goes below zero.

Two of these are tail bytes.  Behind a byte `1110xxxx` they are consumed with it
and the loop is never positioned at them; everywhere else it is, unless another
triple has swallowed them.  `LeadsProper` says which texts have no such lead at
a position that the loop visits, without following the loop.
-/

/-- The form `1110xxxx 10xxxxxx 10xxxxxx` stands at an offset. -/
def ThreeByteForm (str : List UInt8) (offset : Nat) : Prop :=
  ∃ first second third, [first, second, third] <+: str.drop offset ∧
    Utf8.Lead3 first ∧ Utf8.Tail second ∧ Utf8.Tail third

/-- The subtractions of `ParserChar_GetUnicodeNumOfKorean` do not go below
zero. -/
def Subtracts (str : List UInt8) (offset : Nat) : Prop :=
  ∃ first second third, [first, second, third] <+: str.drop offset ∧
    0b11100000 ≤ first.toNat ∧ 0b10000000 ≤ second.toNat ∧ 0b10000000 ≤ third.toNat

/-- Three bytes are consumed exactly where the form stands, and then give a
number of 16 bits without a wrap. -/
structure DecodesForm (str : List UInt8) (draw : GlyphDraw) : Prop where
  consumed : draw.out_len = 3 ↔ ThreeByteForm str draw.str_index
  subtracted : draw.out_len = 3 → Subtracts str draw.str_index
  small : draw.out_len = 3 → draw.unicode.toNat ≤ 0xFFFF

/-- What follows these bytes is one of the two tail bytes of a byte
`1110xxxx`. -/
def Owed (before : List UInt8) : Prop :=
  ∃ lead, Utf8.Lead3 lead ∧
    ([lead] <:+ before ∨ ∃ tail, Utf8.Tail tail ∧ [lead, tail] <:+ before)

/-- Where three bytes of the text pass the tests, the first is `1110xxxx`, or it
belongs to such a byte in front of it. -/
def LeadsProper (text : List UInt8) : Prop :=
  ∀ before first second third after, text = before ++ first :: second :: third :: after →
    Accepted first second third → Utf8.Lead3 first ∨ (Utf8.Tail first ∧ Owed before)

/-- A unit of three bytes has a proper lead. -/
def DecodedUnit.Proper : DecodedUnit → Prop
  | single _ => True
  | triple first _ _ => Utf8.Lead3 first

/-! ## The text against its units -/

theorem not_lead_of_tail {byte : UInt8} (tail : Utf8.Tail byte) : ¬ Utf8.Lead3 byte := by
  unfold Utf8.Tail at tail
  unfold Utf8.Lead3
  omega

theorem not_owed_nil : ¬ Owed [] := by
  rintro ⟨lead, _, owes | ⟨tail, _, owes⟩⟩
  · cases List.suffix_nil.mp owes
  · cases List.suffix_nil.mp owes

theorem owed_cons {byte : UInt8} {before : List UInt8} :
    Owed (byte :: before) ↔
      Owed before ∨
        (Utf8.Lead3 byte ∧ (before = [] ∨ ∃ tail, Utf8.Tail tail ∧ before = [tail])) := by
  constructor
  · rintro ⟨lead, isLead, owes | ⟨tail, isTail, owes⟩⟩
    · rcases List.suffix_cons_iff.mp owes with whole | later
      · cases whole
        exact Or.inr ⟨isLead, Or.inl rfl⟩
      · exact Or.inl ⟨lead, isLead, Or.inl later⟩
    · rcases List.suffix_cons_iff.mp owes with whole | later
      · cases whole
        exact Or.inr ⟨isLead, Or.inr ⟨tail, isTail, rfl⟩⟩
      · exact Or.inl ⟨lead, isLead, Or.inr ⟨tail, isTail, later⟩⟩
  · rintro (⟨lead, isLead, owes | ⟨tail, isTail, owes⟩⟩ | ⟨isLead, rfl | ⟨tail, isTail, rfl⟩⟩)
    · exact ⟨lead, isLead, Or.inl (owes.trans (List.suffix_cons byte before))⟩
    · exact ⟨lead, isLead, Or.inr ⟨tail, isTail, owes.trans (List.suffix_cons byte before)⟩⟩
    · exact ⟨byte, isLead, Or.inl (List.suffix_refl _)⟩
    · exact ⟨byte, isLead, Or.inr ⟨tail, isTail, List.suffix_refl _⟩⟩

/-- A byte that starts no triple can be left out of the text. -/
theorem leadsProper_single {first : UInt8} {rest : List UInt8}
    (refused : ∀ second third tail, rest = second :: third :: tail →
      ¬ Accepted first second third) :
    LeadsProper (first :: rest) ↔ LeadsProper rest := by
  constructor
  · intro proper before lead second third after shape accepted
    rcases proper (first :: before) lead second third after (by rw [shape]; rfl) accepted with
      isLead | ⟨isTail, owed⟩
    · exact Or.inl isLead
    · rcases owed_cons.mp owed with later | ⟨firstLead, rfl | ⟨tail, tail', rfl⟩⟩
      · exact Or.inr ⟨isTail, later⟩
      · exact absurd (accepted_of_lead firstLead isTail accepted.2.2.1) (refused _ _ _ shape)
      · exact absurd (accepted_of_lead firstLead tail' isTail) (refused _ _ _ shape)
  · intro proper before lead second third after shape accepted
    cases before with
    | nil =>
        cases shape
        exact absurd accepted (refused _ _ _ rfl)
    | cons byte before =>
        rcases proper before lead second third after (List.cons.inj shape).2 accepted with
          isLead | ⟨isTail, owed⟩
        · exact Or.inl isLead
        · exact Or.inr ⟨isTail, owed_cons.mpr (Or.inl owed)⟩

/-- A triple needs its lead, and owes its tail bytes to it. -/
theorem leadsProper_triple {first second third : UInt8} {rest : List UInt8}
    (accepted : Accepted first second third) :
    LeadsProper (first :: second :: third :: rest) ↔ Utf8.Lead3 first ∧ LeadsProper rest := by
  have secondNot := not_lead_of_tail accepted.2.2.1
  have thirdNot := not_lead_of_tail accepted.2.2.2
  constructor
  · intro proper
    constructor
    · rcases proper [] first second third rest rfl accepted with isLead | ⟨_, owed⟩
      · exact isLead
      · exact absurd owed not_owed_nil
    · intro before lead second' third' after shape accepted'
      rcases proper (first :: second :: third :: before) lead second' third' after
        (by rw [shape]; rfl) accepted' with isLead | ⟨isTail, owed⟩
      · exact Or.inl isLead
      · refine Or.inr ⟨isTail, ?_⟩
        rw [owed_cons, owed_cons, owed_cons] at owed
        rcases owed with ((later | isThird) | isSecond) | ⟨_, none | ⟨tail, _, one⟩⟩
        · exact later
        · exact absurd isThird.1 thirdNot
        · exact absurd isSecond.1 secondNot
        · cases none
        · cases one
  · rintro ⟨isLead, proper⟩ before lead second' third' after shape accepted'
    match before with
    | [] =>
        cases shape
        exact Or.inl isLead
    | [byte] =>
        cases shape
        exact Or.inr ⟨accepted.2.2.1, first, isLead, Or.inl (List.suffix_refl _)⟩
    | [byte, byte'] =>
        cases shape
        exact Or.inr ⟨accepted.2.2.2, first, isLead,
          Or.inr ⟨second, accepted.2.2.1, List.suffix_refl _⟩⟩
    | byte :: byte' :: byte'' :: before =>
        have shape' : rest = before ++ lead :: second' :: third' :: after := by
          simpa using (List.cons.inj (List.cons.inj (List.cons.inj shape).2).2).2
        rcases proper before lead second' third' after shape' accepted' with
          isLead' | ⟨isTail, owed⟩
        · exact Or.inl isLead'
        · refine Or.inr ⟨isTail, ?_⟩
          rw [owed_cons, owed_cons, owed_cons]
          exact Or.inl (Or.inl (Or.inl owed))

/-- The condition on the bytes of a text is the condition on its units. -/
theorem leadsProper_iff (text : List UInt8) :
    LeadsProper text ↔ ∀ unit ∈ unitsOf text, unit.Proper := by
  fun_induction unitsOf text with
  | case1 first second third rest accepted ih =>
      rw [leadsProper_triple accepted, ih, List.forall_mem_cons]
      exact Iff.rfl
  | case2 first second third rest refused ih =>
      have single : LeadsProper (first :: second :: third :: rest) ↔
          LeadsProper (second :: third :: rest) := by
        apply leadsProper_single
        intro second' third' tail shape
        cases shape
        exact refused
      rw [single, ih, List.forall_mem_cons]
      exact (and_iff_right True.intro).symm
  | case3 first rest short ih =>
      have single : LeadsProper (first :: rest) ↔ LeadsProper rest := by
        apply leadsProper_single
        intro second third tail shape
        exact absurd shape (short second third tail)
      rw [single, ih, List.forall_mem_cons]
      exact (and_iff_right True.intro).symm
  | case4 =>
      refine iff_of_true ?_ (fun unit member => by cases member)
      intro before first second third after shape
      cases List.append_eq_nil_iff.mp shape.symm with
      | intro _ empty => cases empty

/-! ## The loop against the units -/

/-- Behind three bytes that pass the tests, everything asked for is that the
first is a proper lead. -/
theorem decodesForm_triple {str more : List UInt8} {draw : GlyphDraw}
    {first second third : UInt8} (accepted : Accepted first second third)
    (here : str.drop draw.str_index = first :: second :: third :: more)
    (length : draw.out_len = 3)
    (code : draw.unicode = (DecodedUnit.triple first second third).code) :
    DecodesForm str draw ↔ Utf8.Lead3 first := by
  have tails := accepted.2.2
  have front : [first, second, third] <+: str.drop draw.str_index := by
    rw [here]
    exact List.prefix_append [first, second, third] more
  constructor
  · intro decodes
    rcases decodes.consumed.mp length with ⟨first', second', third', form, isLead, _⟩
    rw [here] at form
    cases (List.cons_prefix_cons.mp form).1
    exact isLead
  · intro isLead
    have bounds := isLead
    unfold Utf8.Lead3 at bounds
    refine ⟨iff_of_true length ⟨first, second, third, front, isLead, tails⟩, fun _ => ?_,
      fun _ => ?_⟩
    · exact ⟨first, second, third, front, bounds.1, tails.1.1, tails.2.1⟩
    · have secondBounds := tails.1.2
      have thirdBounds := tails.2.2
      rw [code, code_triple_lead isLead tails.1 tails.2]
      unfold Utf8.codePoint3
      omega

/-- Where no triple starts, one byte is consumed and no form stands. -/
theorem decodesForm_single {str more : List UInt8} {draw : GlyphDraw} {first : UInt8}
    (here : str.drop draw.str_index = first :: more)
    (refused : ∀ second third tail, more = second :: third :: tail →
      ¬ Accepted first second third)
    (length : draw.out_len = 1) : DecodesForm str draw := by
  have notThree : draw.out_len ≠ 3 := by
    rw [length]
    decide
  refine ⟨iff_of_false notThree ?_, fun three => absurd three notThree,
    fun three => absurd three notThree⟩
  rintro ⟨first', second, third, ⟨tail, form⟩, isLead, isTail, isTail'⟩
  rw [here] at form
  cases form
  exact refused second third tail rfl (accepted_of_lead isLead isTail isTail')

/-- The terminator completes no triple. -/
theorem refused_terminated {first : UInt8} {rest : List UInt8}
    (refused : ∀ second third tail, rest = second :: third :: tail →
      ¬ Accepted first second third) (behind : List UInt8) :
    ∀ second third tail, rest ++ 0 :: behind = second :: third :: tail →
      ¬ Accepted first second third := by
  intro second third tail shape accepted
  match rest with
  | [] =>
      cases shape
      exact not_tail_nul accepted.2.2.1
  | [byte] =>
      cases shape
      exact not_tail_nul accepted.2.2.2
  | byte :: byte' :: rest =>
      cases shape
      exact refused second third rest rfl accepted

section Place

variable (images : UInt32 → tImage) (behind : List UInt8)

/-- The first glyph of a text and the glyphs behind it. -/
theorem place_forms_cons {unit : DecodedUnit} {units : List DecodedUnit} {rest : List UInt8}
    (front : List UInt8) (pen : Pen)
    (head : DecodesForm (front ++ (unit.bytes ++ rest ++ 0 :: behind))
      (glyphOf images front.length pen unit) ↔ unit.Proper)
    (later : ∀ (front : List UInt8) (pen : Pen),
      (∀ draw ∈ place images front.length pen units,
          DecodesForm (front ++ (rest ++ 0 :: behind)) draw) ↔
        ∀ unit ∈ units, unit.Proper) :
    (∀ draw ∈ place images front.length pen (unit :: units),
        DecodesForm (front ++ (unit.bytes ++ rest ++ 0 :: behind)) draw) ↔
      ∀ other ∈ unit :: units, other.Proper := by
  have step := later (front ++ unit.bytes)
    (pen.advance (images (LcdTouch_GetFontIndexOfUnicode unit.code)))
  rw [List.length_append, unit.length_bytes] at step
  have same : front ++ (unit.bytes ++ rest ++ 0 :: behind) =
      front ++ unit.bytes ++ (rest ++ 0 :: behind) := by
    simp only [List.append_assoc]
  rw [same] at head ⊢
  rw [place, List.forall_mem_cons, List.forall_mem_cons, head, step]

/-- A byte that starts no triple is decoded as a single one, and no form stands
there. -/
theorem place_forms_single {first : UInt8} {rest : List UInt8}
    (refused : ∀ second third tail, rest = second :: third :: tail →
      ¬ Accepted first second third)
    (later : ∀ (front : List UInt8) (pen : Pen),
      (∀ draw ∈ place images front.length pen (unitsOf rest),
          DecodesForm (front ++ (rest ++ 0 :: behind)) draw) ↔
        ∀ unit ∈ unitsOf rest, unit.Proper)
    (front : List UInt8) (pen : Pen) :
    (∀ draw ∈ place images front.length pen (.single first :: unitsOf rest),
        DecodesForm (front ++ (first :: rest ++ 0 :: behind)) draw) ↔
      ∀ unit ∈ DecodedUnit.single first :: unitsOf rest, unit.Proper := by
  have here : (front ++ (first :: rest ++ 0 :: behind)).drop front.length =
      first :: (rest ++ 0 :: behind) := List.drop_left
  have refused' := refused_terminated refused behind
  exact place_forms_cons images behind front pen
    (iff_of_true (decodesForm_single here refused' rfl) True.intro) later

/-- The glyphs of a text, wherever it stands, are decoded from their forms
exactly when its units have proper leads. -/
theorem place_forms_iff (front text : List UInt8) (pen : Pen) :
    (∀ draw ∈ place images front.length pen (unitsOf text),
        DecodesForm (front ++ (text ++ 0 :: behind)) draw) ↔
      ∀ unit ∈ unitsOf text, unit.Proper := by
  fun_induction unitsOf text generalizing front pen with
  | case1 first second third rest accepted ih =>
      have head : DecodesForm (front ++ (first :: second :: third :: rest ++ 0 :: behind))
          (glyphOf images front.length pen (.triple first second third)) ↔ Utf8.Lead3 first :=
        decodesForm_triple accepted List.drop_left rfl rfl
      exact place_forms_cons images behind front pen head ih
  | case2 first second third rest refused ih =>
      refine place_forms_single images behind ?_ ih front pen
      intro second' third' tail shape
      cases shape
      exact refused
  | case3 first rest short ih =>
      refine place_forms_single images behind ?_ ih front pen
      intro second third tail shape
      exact absurd shape (short second third tail)
  | case4 =>
      constructor
      · intro _ unit member
        cases member
      · intro _ draw member
        cases member

end Place

/-- At every position that the loop visits in a terminated string, three bytes
are consumed exactly where the form `1110xxxx 10xxxxxx 10xxxxxx` stands and
without a wrap, exactly when all three bytes that pass the tests start with a
byte `1110xxxx` or belong to one in front of them. -/
theorem drawString_forms_iff (text : List UInt8) (free : CString.NulFree text)
    (images : UInt32 → tImage) (behind : List UInt8) (x y : UInt32) :
    ∃ draws, LcdTouch_DrawString true images (text ++ 0 :: behind) x y = some draws ∧
      ((∀ draw ∈ draws, DecodesForm (text ++ 0 :: behind) draw) ↔ LeadsProper text) := by
  refine ⟨_, LcdTouch_DrawString_eq images free behind x y, ?_⟩
  rw [leadsProper_iff]
  exact place_forms_iff images behind [] text ⟨x.toUInt16, y.toUInt16⟩

/-- A letter and the syllable U+AC00. -/
theorem drawString_forms_iff_letters :
    ∃ draws, LcdTouch_DrawString true fontImages ([97, 0xEA, 0xB0, 0x80] ++ 0 :: []) 10 10 =
        some draws ∧
      ((∀ draw ∈ draws, DecodesForm ([97, 0xEA, 0xB0, 0x80] ++ 0 :: []) draw) ↔
        LeadsProper [97, 0xEA, 0xB0, 0x80]) :=
  drawString_forms_iff [97, 0xEA, 0xB0, 0x80] (by decide) fontImages [] 10 10

/-- Of the ideograph U+20000 the loop takes the last three bytes as one
character. -/
theorem drawString_forms_ideograph :
    ¬ ∀ text : List UInt8, CString.NulFree text →
      ∀ (images : UInt32 → tImage) (behind : List UInt8) (x y : UInt32) (draws : List GlyphDraw),
        LcdTouch_DrawString true images (text ++ 0 :: behind) x y = some draws →
          ∀ draw ∈ draws, DecodesForm (text ++ 0 :: behind) draw := by
  intro always
  have free : CString.NulFree [0xF0, 0xA0, 0x80, 0x80] := by decide
  have drawn := LcdTouch_DrawString_eq fontImages free [] 10 10
  have decodes := always _ free fontImages [] 10 10 _ drawn
  have proper := (place_forms_iff fontImages [] [] [0xF0, 0xA0, 0x80, 0x80] ⟨10, 10⟩).mp decodes
  have member : DecodedUnit.triple 0xA0 0x80 0x80 ∈ unitsOf [0xF0, 0xA0, 0x80, 0x80] := by decide
  exact absurd (proper _ member) (not_lead_of_tail (by decide))

end Display
end ToothVoca
