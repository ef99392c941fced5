import ClauseEditor.Proofs.Json.Quotation
import ClauseEditor.Proofs.Json.Numeral

/-!
# The characters of a written value

A value is written in printable ASCII and line feeds.  So its text can be
encoded whatever the value, and reading it back as a file changes no line end.
-/

namespace ClauseEditor.Json

/-- Printable ASCII and line feeds. -/
def Ascii (text : Text) : Prop :=
  ∀ c ∈ text, c = '\n' ∨ 0x20 ≤ c.val ∧ c.val ≤ 0x7E

section Ascii

variable {text more : Text}

instance (text : Text) : Decidable (Ascii text) :=
  inferInstanceAs (Decidable (∀ c ∈ text, c = '\n' ∨ 0x20 ≤ c.val ∧ c.val ≤ 0x7E))

theorem Ascii.append
    (one : Ascii text)
    (two : Ascii more) :
    Ascii (text ++ more) :=
  List.forall_mem_append.mpr ⟨one, two⟩

theorem Ascii.isScalar
    (ascii : Ascii text) :
    Utf8.IsScalar text := by
  intro c member
  rw [Utf8.isSurrogate_eq_false_iff]
  rcases ascii c member with rfl | ⟨_, most⟩
  · decide
  · omega

theorem Ascii.notMem_carriageReturn
    (ascii : Ascii text) :
    CodePoint.ofChar '\r' ∉ text := by
  intro member
  rcases ascii _ member with same | ⟨least, _⟩
  · exact absurd same (by decide)
  · exact absurd least (by decide)

theorem Digits.ascii
    (digits : Digits text) :
    Ascii text := by
  intro c member
  have digit := digits c member
  rw [isDigit, Bool.and_eq_true, decide_eq_true_eq, decide_eq_true_eq] at digit
  omega

theorem ascii_minusIf (negative : Bool) : Ascii (Text.minusIf negative) := by
  cases negative with
  | false => decide
  | true => decide

/-! ## Strings -/

theorem ascii_escapeUnit (unit : Nat) : Ascii (escapeUnit unit) := by
  have digit (n : Nat) : Ascii [hexDigit n] := by
    have all : ∀ digit < 16, Ascii [CodePoint.ofChar (Nat.digitChar digit)] := by
      decide
    exact all _ (Nat.mod_lt n (by decide))
  have letters : Ascii (Text.ofString "\\u") := by decide
  exact letters.append ((digit _).append ((digit _).append
    ((digit _).append (digit _))))

theorem ascii_escape (c : CodePoint) : Ascii (escape c) := by
  rw [escape]
  iterate 7 refine iteInduction (fun _ => by decide) fun _ => ?_
  refine iteInduction (fun printable => ?_) fun _ => ?_
  · intro d member
    rw [List.mem_singleton.mp member]
    exact Or.inr printable
  · exact iteInduction (fun _ => ascii_escapeUnit _)
      fun _ => (ascii_escapeUnit _).append (ascii_escapeUnit _)

theorem ascii_quote (text : Text) : Ascii (quote text) := by
  have mark : Ascii (Text.ofString "\"") := by decide
  refine (mark.append ?_).append mark
  intro c member
  rcases List.mem_flatMap.mp member with ⟨d, _, inside⟩
  exact ascii_escape d c inside

/-! ## Numbers -/

theorem ascii_ofInt (n : Int) : Ascii (Text.ofInt n) :=
  (ascii_minusIf _).append (digits_ofNat _).ascii

theorem ascii_positional
    (digits : Digits text)
    (point : Int) :
    Ascii (ShortDecimal.positional text point) := by
  have zero : Ascii (Text.ofString "0.") := by decide
  have mark : Ascii (Text.ofString ".") := by decide
  have place : Ascii (Text.ofString ".0") := by decide
  rw [ShortDecimal.positional]
  split
  · exact (zero.append (digits_zeros _).ascii).append digits.ascii
  split
  · exact (digits.ascii.append (digits_zeros _).ascii).append place
  · exact ((digits.take _).ascii.append mark).append (digits.drop _).ascii

theorem ascii_scientific
    (digits : Digits text)
    (exponent : Int) :
    Ascii (ShortDecimal.scientific text exponent) := by
  have mark : Ascii (Text.ofString ".") := by decide
  have letter : Ascii (Text.ofString "e") := by decide
  have sign : Ascii (Text.ofString (if exponent < 0 then "-" else "+")) := by
    split
    · decide
    · decide
  have fraction :
      Ascii (if text.length ≤ 1 then [] else Text.ofString "." ++ text.drop 1) := by
    split
    · exact nofun
    · exact mark.append (digits.drop 1).ascii
  rw [ShortDecimal.scientific]
  exact (((((digits.take 1).ascii.append fraction).append letter).append
    sign).append (digits_zeros _).ascii).append (digits_ofNat _).ascii

theorem ascii_number (value : Binary64) :
    Ascii (value.render nonFiniteWords) := by
  have nan : Ascii nonFiniteWords.nan := by decide
  have infinity : Ascii nonFiniteWords.infinity := by decide
  have zero : Ascii (Text.ofString "0.0") := by decide
  cases value with
  | nan => exact nan
  | infinite negative => exact (ascii_minusIf negative).append infinity
  | finite negative mantissa exponent =>
      rw [Binary64.render]
      refine (ascii_minusIf negative).append ?_
      split
      · exact zero
      · rw [ShortDecimal.render]
        split
        · exact ascii_positional (digits_ofNat _) _
        · exact ascii_scientific (digits_ofNat _) _

/-! ## Values -/

theorem ascii_newLine (layout : Layout) : Ascii layout.newLine := by
  cases layout with
  | oneLine => exact nofun
  | indented width depth =>
      have first : Ascii (Text.ofString "\n") := by decide
      refine first.append fun c member => ?_
      rw [List.eq_of_mem_replicate member]
      decide

mutual

theorem ascii_render (layout : Layout) (value : Json) :
    Ascii (value.render layout) := by
  have opening : Ascii (Text.ofString "[") := by decide
  have closing : Ascii (Text.ofString "]") := by decide
  have openingBrace : Ascii (Text.ofString "\x7b") := by decide
  have closingBrace : Ascii (Text.ofString "\x7d") := by decide
  have colon : Ascii (Text.ofString ": ") := by decide
  match value with
  | .null =>
      rw [render]
      decide
  | .bool true =>
      rw [render]
      decide
  | .bool false =>
      rw [render]
      decide
  | .integer n =>
      rw [render]
      exact ascii_ofInt n
  | .number n =>
      rw [render]
      exact ascii_number n
  | .string text =>
      rw [render]
      exact ascii_quote text
  | .array [] =>
      rw [render]
      decide
  | .array (item :: items) =>
      rw [render]
      exact ((((opening.append (ascii_newLine _)).append
        (ascii_render _ item)).append (ascii_renderItems _ items)).append
        (ascii_newLine _)).append closing
  | .object [] =>
      rw [render]
      decide
  | .object ((key, member) :: members) =>
      rw [render]
      exact ((((((openingBrace.append (ascii_newLine _)).append
        (ascii_quote key)).append colon).append
        (ascii_render _ member)).append (ascii_renderMembers _ members)).append
        (ascii_newLine _)).append closingBrace

theorem ascii_renderItems (layout : Layout) (items : List Json) :
    Ascii (renderItems layout items) := by
  have comma : Ascii (Text.ofString ",") := by decide
  match items with
  | [] =>
      rw [renderItems]
      exact nofun
  | item :: items =>
      rw [renderItems]
      exact ((comma.append (ascii_newLine _)).append
        (ascii_render _ item)).append (ascii_renderItems _ items)

theorem ascii_renderMembers (layout : Layout) (members : Members) :
    Ascii (renderMembers layout members) := by
  have comma : Ascii (Text.ofString ",") := by decide
  have colon : Ascii (Text.ofString ": ") := by decide
  match members with
  | [] =>
      rw [renderMembers]
      exact nofun
  | (key, member) :: members =>
      rw [renderMembers]
      exact ((((comma.append (ascii_newLine _)).append
        (ascii_quote key)).append colon).append
        (ascii_render _ member)).append (ascii_renderMembers _ members)

end

end Ascii

end ClauseEditor.Json
