import ClauseEditor.Language.FileName
import ClauseEditor.Proofs.Text.Lines
import Mathlib.Data.List.Induction

/-!
# The last component of a path

Slashes, and dots that stand alone behind slashes, may stand behind the last
component of a path and do not count.  What stands between them and the slash
before is the file name; if nothing is left, the file name is empty.  Every
path can be taken apart in this way, and in one way only.
-/

namespace ClauseEditor.Language

/-- What may stand behind the last component. -/
inductive Trails : Text → Prop
  | nil : Trails []
  | slash {tail : Text} (trails : Trails tail) : Trails (.ofChar '/' :: tail)
  | dot {tail : Text} (trails : Trails tail) :
      Trails (.ofChar '/' :: .ofChar '.' :: tail)

/-- The name is the last component of the path, or empty if there is none. -/
inductive EndsIn : Text → Text → Prop
  | named
      {front name tail : Text}
      (opens : front = [] ∨ ∃ above, front = above ++ [.ofChar '/'])
      (whole : .ofChar '/' ∉ name)
      (counts : name ≠ [] ∧ name ≠ Text.ofString ".")
      (trails : Trails tail) :
      EndsIn (front ++ name ++ tail) name
  | none {tail : Text} (trails : Trails tail) : EndsIn tail []
  | dot {tail : Text} (trails : Trails tail) :
      EndsIn (Text.ofString "." ++ tail) []

/-! ## Components -/

/-- A slash separates the components before it from those behind it. -/
theorem pathParts_append_slash (front rest : Text) :
    pathParts (front ++ .ofChar '/' :: rest) =
      pathParts front ++ pathParts rest := by
  rw [pathParts, Text.splitOn_eq, List.splitOn_append_cons_self,
    List.filter_append, pathParts, pathParts, Text.splitOn_eq, Text.splitOn_eq]

theorem pathParts_eq_singleton
    {name : Text}
    (whole : .ofChar '/' ∉ name)
    (counts : name ≠ [] ∧ name ≠ Text.ofString ".") :
    pathParts name = [name] := by
  rw [pathParts, Text.splitOn_eq, List.splitOn_eq_singleton whole,
    List.filter_cons_of_pos (by simp [counts]), List.filter_nil]

theorem pathParts_append_of_trails
    {tail : Text}
    (trails : Trails tail)
    (front : Text) :
    pathParts (front ++ tail) = pathParts front := by
  induction trails generalizing front with
  | nil => rw [List.append_nil]
  | slash trails induction =>
      have rest := induction []
      rw [List.nil_append] at rest
      rw [pathParts_append_slash, rest]
      exact List.append_nil _
  | dot trails induction =>
      have rest := induction (Text.ofString ".")
      have alone : pathParts (Text.ofString ".") = [] := by decide
      rw [alone] at rest
      exact (pathParts_append_slash front _).trans
        ((congrArg _ rest).trans (List.append_nil _))

theorem fileName_of_endsIn
    {path name : Text}
    (endsIn : EndsIn path name) :
    fileName path = name := by
  cases endsIn with
  | named opens whole counts trails =>
      have single := pathParts_eq_singleton whole counts
      rw [fileName, pathParts_append_of_trails trails]
      rcases opens with rfl | ⟨above, rfl⟩
      · rw [List.nil_append, single]
        rfl
      · rw [List.append_assoc, List.singleton_append, pathParts_append_slash,
          single, List.getLast?_concat]
        rfl
  | none trails =>
      have parts := pathParts_append_of_trails trails []
      rw [List.nil_append] at parts
      rw [fileName, parts]
      rfl
  | dot trails =>
      rw [fileName, pathParts_append_of_trails trails]
      rfl

/-! ## Taking a path apart -/

theorem Trails.append
    {first second : Text}
    (one : Trails first)
    (other : Trails second) :
    Trails (first ++ second) := by
  induction one with
  | nil => exact other
  | slash trails induction => exact .slash induction
  | dot trails induction => exact .dot induction

theorem EndsIn.append
    {path name tail : Text}
    (endsIn : EndsIn path name)
    (trails : Trails tail) :
    EndsIn (path ++ tail) name := by
  cases endsIn with
  | named opens whole counts before =>
      rw [List.append_assoc]
      exact .named opens whole counts (before.append trails)
  | none before => exact .none (before.append trails)
  | dot before =>
      rw [List.append_assoc]
      exact .dot (before.append trails)

/-- A path up to its last slash, and what stands behind this. -/
theorem exists_eq_append_piece (path : Text) :
    ∃ front piece : Text,
      path = front ++ piece ∧ .ofChar '/' ∉ piece ∧
        (front = [] ∨ ∃ above, front = above ++ [.ofChar '/']) := by
  induction path using List.reverseRecOn with
  | nil => exact ⟨[], [], rfl, List.not_mem_nil, Or.inl rfl⟩
  | append_singleton path last induction =>
      by_cases slash : last = .ofChar '/'
      · subst slash
        exact ⟨path ++ [.ofChar '/'], [], (List.append_nil _).symm,
          List.not_mem_nil, Or.inr ⟨path, rfl⟩⟩
      · rcases induction with ⟨front, piece, rfl, whole, opens⟩
        refine ⟨front, piece ++ [last], List.append_assoc _ _ _, ?_, opens⟩
        intro member
        rcases List.mem_append.mp member with inside | atEnd
        · exact whole inside
        · exact slash (List.mem_singleton.mp atEnd).symm

/-- A piece that counts is the name; any other leaves the path before it. -/
theorem exists_endsIn (path : Text) : ∃ name, EndsIn path name := by
  rcases exists_eq_append_piece path with ⟨front, piece, rfl, whole, opens⟩
  by_cases counts : piece ≠ [] ∧ piece ≠ Text.ofString "."
  · have named := EndsIn.named opens whole counts .nil
    rw [List.append_nil] at named
    exact ⟨piece, named⟩
  · have skipped : piece = [] ∨ piece = Text.ofString "." :=
      (Decidable.not_and_iff_not_or_not.mp counts).imp Decidable.not_not.mp
        Decidable.not_not.mp
    rcases opens with rfl | ⟨above, rfl⟩
    · rcases skipped with rfl | rfl
      · exact ⟨[], .none .nil⟩
      · exact ⟨[], .dot .nil⟩
    · have shorter :
          above.length < (above ++ [CodePoint.ofChar '/'] ++ piece).length := by
        simp
      rcases exists_endsIn above with ⟨name, endsIn⟩
      rw [List.append_assoc]
      rcases skipped with rfl | rfl
      · exact ⟨name, endsIn.append (.slash .nil)⟩
      · exact ⟨name, endsIn.append (.dot .nil)⟩
termination_by path.length

theorem fileName_eq_iff {path name : Text} :
    fileName path = name ↔ EndsIn path name := by
  constructor
  · rintro rfl
    rcases exists_endsIn path with ⟨name, endsIn⟩
    rwa [fileName_of_endsIn endsIn]
  · exact fileName_of_endsIn

end ClauseEditor.Language
