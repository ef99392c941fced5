import ClauseEditor.Proofs.Language.FileName
import ClauseEditor.Proofs.Language.Registration
import ClauseEditor.Proofs.Text.LowerCase

/-!
# Patterns for file name extensions

A pattern that consists of a star and a text without special characters
matches the names that end in this text.  Lower case leaves the star in front
and brings no special character in, so it makes no difference whether the text
is put in lower case by itself or behind the star.

A language with such a pattern is therefore that of the files whose last
component, in lower case, ends in the text in lower case, if no language
before it matches.
-/

namespace ClauseEditor.Language

/-- No character of the text means anything but itself in a pattern. -/
def IsLiteral (text : Text) : Prop :=
  ∀ c ∈ text,
    c ≠ .ofChar '*' ∧ c ≠ .ofChar '?' ∧ c ≠ .ofChar '['

/-! ## Matching, item by item -/

theorem mem_suffixes_iff {suffix text : Text} :
    suffix ∈ suffixes text ↔ suffix <:+ text := by
  induction text with
  | nil => rw [suffixes, List.mem_singleton, List.suffix_nil]
  | cons c rest induction =>
      rw [suffixes, List.mem_cons, induction, List.suffix_cons_iff]

/-- A star stands for what comes before any end of the name. -/
theorem fitsItems_anyRun_iff {items : List GlobItem} {name : Text} :
    fitsItems (.anyRun :: items) name = true ↔
      ∃ suffix, suffix <:+ name ∧ fitsItems items suffix = true := by
  rw [fitsItems, List.any_eq_true]
  simp only [mem_suffixes_iff]

/-- Characters stand for themselves. -/
theorem fitsItems_map_exactly_iff {text name : Text} :
    fitsItems (text.map .exactly) name = true ↔ name = text := by
  induction text generalizing name with
  | nil => exact List.isEmpty_iff
  | cons c text induction =>
      rw [List.map_cons]
      cases name with
      | nil => exact iff_of_false nofun nofun
      | cons first name =>
          have step :
              fitsItems (.exactly c :: text.map .exactly) (first :: name) =
                (decide (first = c) &&
                  fitsItems (text.map .exactly) name) :=
            rfl
          rw [step, Bool.and_eq_true, decide_eq_true_eq, induction,
            List.cons.injEq]

section Literal

variable {text : Text} (literal : IsLiteral text)

include literal

theorem globItems_of_isLiteral
    {fuel : Nat}
    (enough : text.length ≤ fuel) :
    globItems fuel text = text.map .exactly := by
  induction text generalizing fuel with
  | nil => cases fuel <;> rfl
  | cons c text induction =>
      cases fuel with
      | zero => exact absurd enough (Nat.not_succ_le_zero _)
      | succ fuel =>
          rcases literal c List.mem_cons_self with ⟨noStar, noMark, noBracket⟩
          have rest : IsLiteral text :=
            fun d member => literal d (List.mem_cons_of_mem c member)
          rw [globItems, if_neg noStar, if_neg noMark, if_neg noBracket,
            induction rest (Nat.le_of_succ_le_succ enough), List.map_cons]

/-- A star and a text match what ends in the text. -/
theorem globMatches_star_iff {name : Text} :
    globMatches (.ofChar '*' :: text) name = true ↔ text <:+ name := by
  have items :
      globItems (text.length + 1) (.ofChar '*' :: text) =
        .anyRun :: text.map .exactly := by
    rw [globItems, if_pos rfl, globItems_of_isLiteral literal (Nat.le_refl _)]
  rw [globMatches, List.length_cons, items, fitsItems_anyRun_iff]
  simp only [fitsItems_map_exactly_iff]
  constructor
  · rintro ⟨suffix, ends, rfl⟩
    exact ends
  · intro ends
    exact ⟨text, ends, rfl⟩

/-- The special characters come before the small letters. -/
theorem IsLiteral.lower : IsLiteral (Text.lower text) := by
  intro c member
  refine ⟨?_, ?_, ?_⟩
  · rintro rfl
    exact (literal _ (Text.mem_of_mem_lower member (by decide))).1 rfl
  · rintro rfl
    exact (literal _ (Text.mem_of_mem_lower member (by decide))).2.1 rfl
  · rintro rfl
    exact (literal _ (Text.mem_of_mem_lower member (by decide))).2.2 rfl

end Literal

theorem lower_star_cons (text : Text) :
    Text.lower (.ofChar '*' :: text) = .ofChar '*' :: Text.lower text :=
  Text.lower_cons (by decide +kernel) (by decide +kernel) (by decide +kernel)
    text

/-! ## Modes -/

theorem Mode.matches_star_iff
    {mode : Mode}
    {suffix : Text}
    (literal : IsLiteral suffix)
    (patterns : mode.patterns = [.ofChar '*' :: suffix])
    {path : Text} :
    mode.Matches path ↔
      Text.lower suffix <:+ Text.lower (fileName path) := by
  rw [Mode.Matches, patterns]
  simp only [List.mem_singleton, exists_eq_left]
  rw [lower_star_cons, globMatches_star_iff literal.lower]

namespace Registry

/-- The first mode that matches, if the ones before it do not. -/
theorem forPath?_eq_some_iff
    {registry : Registry}
    {before after : List Mode}
    {mode : Mode}
    (registered : registry.modes = before ++ mode :: after)
    {path : Text}
    (first : ∀ other ∈ before, ¬ other.Matches path) :
    registry.forPath? path = some mode ↔ mode.Matches path := by
  rw [forPath?, registered, ← Mode.claims_eq_true_iff]
  constructor
  · exact List.find?_some
  · intro matching
    rw [List.find?_eq_some_iff_append]
    refine ⟨matching, before, after, rfl, ?_⟩
    intro other inFront
    rw [Mode.claims_eq_false_iff.mpr (first other inFront)]
    rfl

/--
A mode whose only pattern is a star and a text without special characters is
that of a file, if no mode before it matches, exactly if the last component of
the path, in lower case, ends in the text in lower case.
-/
theorem forPath?_star_iff
    {registry : Registry}
    {before after : List Mode}
    {mode : Mode}
    (registered : registry.modes = before ++ mode :: after)
    {suffix : Text}
    (literal : IsLiteral suffix)
    (patterns : mode.patterns = [.ofChar '*' :: suffix])
    {path : Text}
    (first : ∀ other ∈ before, ¬ other.Matches path) :
    registry.forPath? path = some mode ↔
      ∃ name, EndsIn path name ∧ Text.lower suffix <:+ Text.lower name := by
  rw [forPath?_eq_some_iff registered first,
    Mode.matches_star_iff literal patterns]
  constructor
  · intro ends
    exact ⟨fileName path, fileName_eq_iff.mp rfl, ends⟩
  · rintro ⟨name, endsIn, ends⟩
    rwa [fileName_of_endsIn endsIn]

/--
A capital sigma behind a letter becomes a final sigma both in the pattern and
at the end of the name.  Right behind the star it does not, so then the same
file is not matched.
-/
theorem forPath?_star_iff_sample :
    let path := Text.ofString "d/ΛΟΓΟΣ/./"
    let withLetter : Mode := ⟨Text.ofString "A", [Text.ofString "*ΟΣ"], [], 2⟩
    let alone : Mode := ⟨Text.ofString "B", [Text.ofString "*Σ"], [], 2⟩
    let lastFirst := start.registerAll [alone, withLetter]
    lastFirst.modes = [.scallop, alone, withLetter] ∧
      IsLiteral (Text.ofString "ΟΣ") ∧
      (∀ other ∈ [Mode.scallop, alone], ¬ other.Matches path) ∧
      EndsIn path (Text.ofString "ΛΟΓΟΣ") ∧
      lastFirst.forPath? path = some withLetter := by
  intro path withLetter alone lastFirst
  have registered : lastFirst.modes = [.scallop, alone] ++ withLetter :: [] :=
    rfl
  have literal : IsLiteral (Text.ofString "ΟΣ") := by
    unfold IsLiteral
    decide
  have first : ∀ other ∈ [Mode.scallop, alone], ¬ other.Matches path := by
    have none :
        ∀ other ∈ [Mode.scallop, alone],
          other.claims (Text.lower (fileName path)) = false := by
      decide +kernel
    intro other member
    exact Mode.claims_eq_false_iff.mp (none other member)
  have endsIn : EndsIn path (Text.ofString "ΛΟΓΟΣ") :=
    fileName_eq_iff.mp (by decide +kernel)
  refine ⟨registered, literal, first, endsIn, ?_⟩
  exact (forPath?_star_iff registered literal rfl first).mpr
    ⟨_, endsIn, by decide +kernel⟩

end Registry

end ClauseEditor.Language
