import ClauseEditor.Proofs.Editor.ElectricBracket
import ClauseEditor.Proofs.Editor.Session

/-!
# Brackets in pairs

An opening bracket brings its closing one along, and a closing bracket that is
next to the cursor is stepped over.  The two make up for each other: a text in
which the brackets match goes in as it is, whatever stands around the cursor.

The proof follows the nesting.  What is typed between two brackets goes between
the pair that the first one has put in, as it would in any other place.  The
second one then finds its like next to the cursor, and it does not settle its
line, because the first one stands in front of it there.
-/

namespace ClauseEditor.Editor

open Document

/-- Each bracket in the text has its partner, and pairs do not cross. -/
inductive Matched : Text → Prop where
  | nil : Matched []
  | plain
      {c : CodePoint}
      {rest : Text}
      (opensNone : closing? c = none)
      (closesNone : isClosing c = false)
      (others : Matched rest) :
      Matched (c :: rest)
  | nested
      {opening close : CodePoint}
      {inner rest : Text}
      (pair : (opening, close) ∈ bracketPairs)
      (within : Matched inner)
      (others : Matched rest) :
      Matched (opening :: inner ++ close :: rest)

/-- What typing a text puts in. -/
def unitsTyped (text : Text) : List CodeUnit :=
  Utf16.encode (text.filter (isTyped · false))

/-- No mark is attached to what stands in front of the units. -/
def Unattached (units : List CodeUnit) : Prop :=
  ∀ c ∈ (firstLine units).head?, c.attaches = false

instance (units : List CodeUnit) : Decidable (Unattached units) :=
  inferInstanceAs
    (Decidable (∀ c ∈ (firstLine units).head?, c.attaches = false))

theorem Unattached.takeWhile_eq
    {units : List CodeUnit}
    (unattached : Unattached units) :
    (firstLine units).takeWhile CodePoint.attaches = [] := by
  rw [Unattached] at unattached
  cases shown : firstLine units with
  | nil => rfl
  | cons c rest =>
      have alone := unattached c (by rw [shown]; exact rfl)
      exact List.takeWhile_cons_of_neg (ne_true_of_eq_false alone)

/-- What two brackets that belong together need for typing them. -/
structure IsPair (opening close : CodePoint) : Prop where
  openingKey : IsKey opening
  closeKey : IsKey close
  closing?_opening : closing? opening = some close
  closing?_close : closing? close = none
  isClosing_close : isClosing close = true
  isBlank_opening : opening.isBlank = false
  attaches_close : close.attaches = false
  opening_ne_close : opening ≠ close

theorem isPair_of_mem
    {opening close : CodePoint}
    (pair : (opening, close) ∈ bracketPairs) :
    IsPair opening close := by
  simp only [bracketPairs, List.mem_cons, Prod.mk.injEq, List.not_mem_nil,
    or_false] at pair
  rcases pair with ⟨rfl, rfl⟩ | ⟨rfl, rfl⟩ | ⟨rfl, rfl⟩ <;>
    constructor <;> decide

/-! ## What is typed -/

theorem unitsTyped_append (left right : Text) :
    unitsTyped (left ++ right) = unitsTyped left ++ unitsTyped right := by
  rw [unitsTyped, List.filter_append, Utf16.encode_append, unitsTyped,
    unitsTyped]

theorem unitsTyped_of_isTyped
    {c : CodePoint}
    (typed : isTyped c false = true) :
    unitsTyped [c] = Utf16.encode [c] := by
  rw [unitsTyped, List.filter_cons, if_pos typed, List.filter_nil]

theorem IsKey.unitsTyped_eq
    {c : CodePoint}
    (key : IsKey c) :
    unitsTyped [c] = [.ofNat c.val] :=
  (unitsTyped_of_isTyped key.isTyped_eq).trans key.encode_eq

theorem unitsTyped_of_not_isTyped
    {c : CodePoint}
    (untyped : ¬ isTyped c false = true) :
    unitsTyped [c] = [] := by
  rw [unitsTyped, List.filter_cons, if_neg untyped]
  rfl

/-- A closing bracket is attached to nothing. -/
theorem IsPair.unattached_close
    {opening close : CodePoint}
    (pair : IsPair opening close)
    (after : List CodeUnit) :
    Unattached (unitsTyped [close] ++ after) := by
  rw [pair.closeKey.unitsTyped_eq, List.singleton_append, Unattached,
    pair.closeKey.firstLine_cons_eq]
  rintro c ⟨rfl⟩
  exact pair.attaches_close

theorem separator_notMem_unitsTyped
    {text : Text}
    (inLine : ∀ c ∈ text, c.val ≠ 0x2029) :
    separator ∉ unitsTyped text := by
  induction text with
  | nil => exact List.not_mem_nil
  | cons c text induction =>
      have own := inLine c List.mem_cons_self
      have others := induction fun other member =>
        inLine other (List.mem_cons_of_mem c member)
      rw [← List.singleton_append, unitsTyped_append, List.mem_append, not_or]
      refine ⟨?_, others⟩
      by_cases typed : isTyped c false = true
      · rw [unitsTyped_of_isTyped typed]
        exact separator_notMem_encode_of_isTyped typed own
      · rw [unitsTyped_of_not_isTyped typed]
        exact List.not_mem_nil

/-! ## Single keys -/

/-- The bracket that is next to the cursor is stepped over by one unit. -/
theorem isAt_typeClosing
    {editor : Editor}
    {before after : List CodeUnit}
    {close : CodePoint}
    (key : IsKey close)
    (stands : editor.IsAt before (unitsTyped [close] ++ after))
    (unattached : Unattached after) :
    (editor.typeClosing close false).editor.IsAt
      (before ++ unitsTyped [close]) after := by
  rw [key.unitsTyped_eq] at stands ⊢
  have behind := stands.drop_position_eq
  have next : editor.IsNext close := by
    refine ⟨stands.hasSelection_eq, ?_⟩
    rw [behind]
    exact congrArg some key.single_eq
  have follows :
      firstLine (editor.content.drop editor.cursor.position) =
        close :: firstLine after := by
    rw [behind, List.singleton_append, key.firstLine_cons_eq]
  have reached :
      characterAfter editor.content editor.cursor.position =
        (before ++ [CodeUnit.ofNat close.val]).length := by
    rw [characterAfter_eq follows, unattached.takeWhile_eq,
      key.encode_eq, stands.cursor_eq, List.length_append]
    rfl
  rw [typeClosing_eq, if_pos next]
  constructor
  · exact stands.content_eq.trans (List.append_assoc _ _ _).symm
  · exact congrArg Cursor.atPosition reached

section Keys

variable
    {editor : Editor}
    (sound : editor.Sound)
    {before after : List CodeUnit}

include sound

theorem Sound.isAt_typeOther
    (stands : editor.IsAt before after)
    {c : CodePoint}
    (opensNone : closing? c = none)
    (closesNone : isClosing c = false)
    (inLine : c.val ≠ 0x2029) :
    (editor.typeCharacter c false).editor.IsAt (before ++ unitsTyped [c])
      after := by
  rw [Editor.typeCharacter, opensNone]
  dsimp only
  rw [if_neg (ne_true_of_eq_false closesNone)]
  by_cases typed : isTyped c false = true
  · have made := sound.isAt_typePlain typed inLine
    rwa [stands.take_first_eq, stands.drop_last_eq,
      ← unitsTyped_of_isTyped typed] at made
  · rw [unitsTyped_of_not_isTyped typed, List.append_nil, Editor.typePlain,
      if_neg typed]
    exact stands

variable
    {opening close : CodePoint}
    (pair : IsPair opening close)

include pair

theorem Sound.isAt_typeOpening (stands : editor.IsAt before after) :
    (editor.typeCharacter opening false).editor.IsAt
      (before ++ unitsTyped [opening]) (unitsTyped [close] ++ after) := by
  have made := sound.isAt_typePair pair.closeKey pair.openingKey
  rw [Editor.typeCharacter, pair.closing?_opening]
  rwa [stands.take_first_eq, stands.drop_last_eq,
    ← unitsTyped_of_isTyped pair.openingKey.isTyped_eq,
    ← unitsTyped_of_isTyped pair.closeKey.isTyped_eq] at made

/--
The closing bracket does not settle its line, because the opening one is in
front of it there.
-/
theorem Sound.isAt_typeClose
    {units : List CodeUnit}
    (whole : separator ∉ units)
    (stands :
      editor.IsAt (before ++ unitsTyped [opening] ++ units)
        (unitsTyped [close] ++ after))
    (unattached : Unattached after) :
    (editor.typeCharacter close false).editor.IsAt
      (before ++ unitsTyped [opening] ++ units ++ unitsTyped [close])
      after := by
  have closed := isAt_typeClosing pair.closeKey stands unattached
  have front := closed
  rw [pair.openingKey.unitsTyped_eq, pair.closeKey.unitsTyped_eq,
    List.append_assoc, List.append_assoc, List.singleton_append] at front
  have behind : separator ∉ units ++ [CodeUnit.ofNat close.val] := by
    rw [List.mem_append, List.mem_singleton, not_or]
    exact ⟨whole, pair.closeKey.ne_separator.symm⟩
  obtain ⟨others, shown⟩ :=
    (sound.typeClosing close false).exists_lineFront_eq pair.openingKey front
      behind
  have member :
      opening ∈ (editor.typeClosing close false).editor.lineFront := by
    rw [shown]
    exact List.mem_append_right others List.mem_cons_self
  have alone :
      (editor.typeCharacter close false).editor =
        (editor.typeClosing close false).editor := by
    by_cases electric : [close] ∈ electricBrackets
    · obtain ⟨bracket, same, isElectric⟩ := exists_isElectric electric
      obtain rfl := List.singleton_inj.mp same
      exact sound.typeCharacter_eq_of_visible isElectric member
        pair.isBlank_opening pair.opening_ne_close
    · rw [Editor.typeCharacter, pair.closing?_close]
      dsimp only
      rw [if_pos pair.isClosing_close, if_neg electric]
  rw [alone]
  exact closed

end Keys

/-! ## Texts -/

section Texts

variable
    (editor : Editor)
    (control : Bool)

theorem editor_typeText (text : Text) :
    (editor.typeText text control).editor =
      text.foldl (fun editor c => (editor.typeCharacter c control).editor)
        editor :=
  editor_foldl_andThen (fun c editor => editor.typeCharacter c control) text
    editor.stay

theorem editor_typeText_cons (c : CodePoint) (rest : Text) :
    (editor.typeText (c :: rest) control).editor =
      ((editor.typeCharacter c control).editor.typeText rest
        control).editor := by
  rw [editor_typeText, editor_typeText, List.foldl_cons]

theorem editor_typeText_append (left right : Text) :
    (editor.typeText (left ++ right) control).editor =
      ((editor.typeText left control).editor.typeText right
        control).editor := by
  rw [editor_typeText, editor_typeText, editor_typeText, List.foldl_append]

end Texts

/-- Matching brackets make no difference to what typing a text puts in. -/
theorem Matched.isAt_typeText
    {text : Text}
    (isMatched : Matched text)
    (inLine : ∀ c ∈ text, c.val ≠ 0x2029)
    {editor : Editor}
    (sound : editor.Sound)
    {before after : List CodeUnit}
    (stands : editor.IsAt before after)
    (unattached : Unattached after) :
    (editor.typeText text false).editor.IsAt (before ++ unitsTyped text)
      after := by
  induction isMatched generalizing editor before after with
  | nil =>
      rw [unitsTyped, List.filter_nil, Utf16.encode, List.flatMap_nil,
        List.append_nil]
      exact stands
  | @plain c rest opensNone closesNone _ induction =>
      have own := inLine c List.mem_cons_self
      have others : ∀ other ∈ rest, other.val ≠ 0x2029 :=
        fun other member => inLine other (List.mem_cons_of_mem c member)
      have step := sound.isAt_typeOther stands opensNone closesNone own
      rw [editor_typeText_cons, ← List.singleton_append, unitsTyped_append,
        ← List.append_assoc]
      exact induction others (sound.typeCharacter c false) step unattached
  | @nested opening close inner rest listed _ _ innerInduction restInduction =>
      have pair := isPair_of_mem listed
      have innerInLine : ∀ c ∈ inner, c.val ≠ 0x2029 :=
        fun c member => inLine c (List.mem_append_left _
          (List.mem_cons_of_mem opening member))
      have restInLine : ∀ c ∈ rest, c.val ≠ 0x2029 :=
        fun c member => inLine c (List.mem_append_right _
          (List.mem_cons_of_mem close member))
      -- The inner text goes in front of the closing bracket that came along,
      -- which is next to the cursor when its own key is pressed.
      have opened := sound.isAt_typeOpening pair stands
      have openedSound := sound.typeCharacter opening false
      have inside :=
        innerInduction innerInLine openedSound opened
          (pair.unattached_close after)
      have insideSound := openedSound.typeText inner false
      have closed :=
        insideSound.isAt_typeClose pair
          (separator_notMem_unitsTyped innerInLine) inside unattached
      have closedSound := insideSound.typeCharacter close false
      have done := restInduction restInLine closedSound closed unattached
      have units :
          unitsTyped (opening :: inner ++ close :: rest) =
            unitsTyped [opening] ++ unitsTyped inner ++ unitsTyped [close] ++
              unitsTyped rest := by
        rw [← unitsTyped_append, ← unitsTyped_append, ← unitsTyped_append,
          List.append_assoc ([opening] ++ inner)]
        rfl
      rw [units, ← List.append_assoc, ← List.append_assoc,
        ← List.append_assoc, List.cons_append, editor_typeText_cons,
        editor_typeText_append, editor_typeText_cons]
      exact done

/-- A character that is seen, or a separator that does not end a paragraph. -/
def isWritten (c : CodePoint) : Bool :=
  c.isPrintable || (c.isOtherSeparator && c.val ≠ 0x2029)

section Written

variable
    {c : CodePoint}
    (written : isWritten c = true)

include written

theorem inLine_of_isWritten : c.val ≠ 0x2029 := by
  intro value
  have unseen : isWritten (CodePoint.ofNat 0x2029) = false := by
    decide +kernel
  rw [← CodePoint.ofNat_val c, value, unseen] at written
  cases written

theorem isTyped_of_isWritten : isTyped c false = true := by
  have kind : (c.isPrintable || c.isOtherSeparator) = true := by
    rw [isWritten, Bool.or_eq_true_iff, Bool.and_eq_true_iff] at written
    rw [Bool.or_eq_true_iff]
    exact written.imp_right And.left
  rw [isTyped, kind]
  simp

end Written

theorem unitsTyped_of_isWritten
    {text : Text}
    (written : ∀ c ∈ text, isWritten c = true) :
    unitsTyped text = Utf16.encode text := by
  rw [unitsTyped, List.filter_eq_self.mpr fun c member =>
    isTyped_of_isWritten (written c member)]

/--
A text in which brackets match that is typed in a session goes in where the
cursor is, and the cursor goes behind it.  There must be nothing selected and
no mark right behind the cursor, which would be stepped over together with a
bracket.
-/
theorem typeText_matched_session
    (palette : Palette)
    (mode : Language.Mode)
    (text : Text)
    (commands : List Command)
    {written : Text}
    (isMatched : Matched written)
    (areWritten : ∀ c ∈ written, isWritten c = true)
    (selectsNone :
      let editor := session palette mode text commands
      editor.cursor.hasSelection = false)
    (unattached :
      let editor := session palette mode text commands
      Unattached (editor.content.drop editor.cursor.position)) :
    let editor := session palette mode text commands
    let position := editor.cursor.position
    let typed := (editor.typeText written false).editor
    let units := Utf16.encode written
    typed.content =
        editor.content.take position ++ units ++
          editor.content.drop position ∧
      typed.cursor = .atPosition (position + units.length) := by
  have sound := sound_session palette mode text commands
  generalize session palette mode text commands = editor
    at sound selectsNone unattached ⊢
  have stands := between_take_drop sound.position_le
  rw [← Cursor.eq_atPosition selectsNone] at stands
  have typed :=
    isMatched.isAt_typeText
      (fun c member => inLine_of_isWritten (areWritten c member)) sound stands
      unattached
  rw [unitsTyped_of_isWritten areWritten] at typed
  refine ⟨typed.content_eq, ?_⟩
  rw [typed.cursor_eq, List.length_append,
    List.length_take_of_le sound.position_le]

/--
In front of a bracket that stands there already, which stays.  One of the
characters takes two units.
-/
theorem typeText_matched_sample :
    let written : Text :=
      [CodePoint.ofChar '(', CodePoint.ofChar '[', CodePoint.ofChar '😀',
        CodePoint.ofChar ']', CodePoint.ofChar ')']
    let editor := session .dark .scallop (Text.ofString "a)") [.select 1 1]
    let typed := (editor.typeText written false).editor
    Matched written ∧ typed.text = Text.ofString "a([😀]))" ∧
      typed.cursor = .atPosition 7 := by
  have face : Matched [CodePoint.ofChar '😀'] :=
    .plain (by decide) (by decide) .nil
  have square :
      Matched
        (CodePoint.ofChar '[' :: [CodePoint.ofChar '😀'] ++
          CodePoint.ofChar ']' :: []) :=
    .nested (by decide) face .nil
  have round :
      Matched
        (CodePoint.ofChar '(' ::
            [CodePoint.ofChar '[', CodePoint.ofChar '😀',
              CodePoint.ofChar ']'] ++
          CodePoint.ofChar ')' :: []) :=
    .nested (by decide) square .nil
  have typed :=
    typeText_matched_session .dark .scallop (Text.ofString "a)") [.select 1 1]
      round (by decide +kernel) (by decide +kernel) (by decide +kernel)
  exact
    ⟨round, (congrArg plainText typed.1).trans (by decide +kernel),
      typed.2.trans (by decide +kernel)⟩

end ClauseEditor.Editor
