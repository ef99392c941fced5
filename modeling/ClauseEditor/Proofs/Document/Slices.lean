import ClauseEditor.Document.History
import ClauseEditor.Document.LineView

/-!
# Lines by number and by slice

The lines of a document are looked up as the elements of a list are.  A number
counts from the start, a negative one from the end, and there is no line beyond
either end.

A slice takes the stretch of a list between its bounds and of this every
`step`-th element: from the first one on if the step is positive, from the last
one on backwards if it is negative.  That says nothing about the numbers of the
elements.  The numbers that a look-up goes through are the slice of the list of
all numbers, so none of them is negative or past the end, and no line is looked
up that does not belong to the slice.
-/

namespace ClauseEditor.Document

/-! ## Elements and slices of a list -/

section Lists

variable {α : Type}

/-- The element with a number; minus one is the number of the last one. -/
def elementAt? (list : List α) : Int → Option α
  | .ofNat number => list[number]?
  | .negSucc number => list.reverse[number]?

/-- Every `step`-th element behind the first `wait` ones. -/
def everyNth (step : Nat) : Nat → List α → List α
  | _, [] => []
  | 0, element :: rest => element :: everyNth step (step - 1) rest
  | wait + 1, _ :: rest => everyNth step wait rest

/-- A number counted from the start; a negative one is given from the end. -/
def counted (count : Nat) (number : Int) : Int :=
  if number < 0 then number + count else number

/-- How many of `count` elements stand before a bound. -/
def countBefore (count : Nat) (bound : Int) : Nat :=
  min (counted count bound).toNat count

/-- How many of `count` elements stand before a bound or at it. -/
def countUpTo (count : Nat) (bound : Int) : Nat :=
  min (counted count bound + 1).toNat count

namespace Slice

/-- How far a slice goes from one element to the next. -/
def stride (slice : Slice) : Int :=
  slice.step.getD 1

/-- How many of `count` elements stand before the stretch of a slice. -/
def lower (slice : Slice) (count : Nat) : Nat :=
  if 0 < slice.stride then slice.start.elim 0 (countBefore count)
  else slice.stop.elim 0 (countUpTo count)

/-- How many of `count` elements stand before the end of that stretch. -/
def upper (slice : Slice) (count : Nat) : Nat :=
  if 0 < slice.stride then slice.stop.elim count (countBefore count)
  else slice.start.elim count (countUpTo count)

/-- The elements of a slice, for a step that is not zero. -/
def elements (slice : Slice) (list : List α) : List α :=
  let stretch :=
    (list.take (slice.upper list.length)).drop (slice.lower list.length)
  everyNth slice.stride.natAbs 0
    (if 0 < slice.stride then stretch else stretch.reverse)

end Slice

theorem elementAt?_eq (list : List α) (index : Int) :
    elementAt? list index =
      if counted list.length index < 0 then none
      else list[(counted list.length index).toNat]? := by
  cases index with
  | ofNat number =>
      have fromStart : ¬ (number : Int) < 0 := by omega
      simp [elementAt?, counted, fromStart]
  | negSucc number =>
      rw [elementAt?, counted, if_pos (Int.negSucc_lt_zero number)]
      by_cases present : number < list.length
      · rw [if_neg (by omega), List.getElem?_reverse present]
        congr 1
        omega
      · rw [if_pos (by omega), List.getElem?_eq_none]
        simpa using present

/-- There is no element beyond either end. -/
theorem elementAt?_eq_none_iff {list : List α} {index : Int} :
    elementAt? list index = none ↔
      index < -(list.length : Int) ∨ (list.length : Int) ≤ index := by
  cases index with
  | ofNat number =>
      rw [elementAt?, List.getElem?_eq_none_iff, Int.ofNat_eq_natCast]
      omega
  | negSucc number =>
      rw [elementAt?, List.getElem?_eq_none_iff, List.length_reverse]
      omega

theorem getElem?_everyNth
    {step : Nat}
    (positive : 0 < step)
    (wait : Nat)
    (list : List α)
    (position : Nat) :
    (everyNth step wait list)[position]? = list[wait + position * step]? := by
  induction list generalizing wait position with
  | nil => rfl
  | cons element rest induction =>
      cases wait with
      | succ wait =>
          rw [everyNth, induction, Nat.add_right_comm,
            List.getElem?_cons_succ]
      | zero =>
          cases position with
          | zero => simp [everyNth]
          | succ position =>
              have next :
                  0 + (position + 1) * step =
                    step - 1 + position * step + 1 := by
                rw [Nat.succ_mul]
                omega
              rw [everyNth, List.getElem?_cons_succ, induction, next,
                List.getElem?_cons_succ]

theorem mem_of_mem_everyNth
    {step wait : Nat}
    {list : List α}
    {element : α}
    (member : element ∈ everyNth step wait list) :
    element ∈ list := by
  fun_induction everyNth step wait list with
  | case1 wait => cases member
  | case2 first rest induction =>
      rcases List.mem_cons.mp member with rfl | behind
      · exact List.mem_cons_self
      · exact List.mem_cons_of_mem first (induction behind)
  | case3 wait first rest induction =>
      exact List.mem_cons_of_mem first (induction member)

theorem Slice.mem_of_mem_elements
    {slice : Slice}
    {list : List α}
    {element : α}
    (member : element ∈ slice.elements list) :
    element ∈ list := by
  have picked := mem_of_mem_everyNth member
  split at picked
  · exact List.mem_of_mem_take (List.mem_of_mem_drop picked)
  · exact List.mem_of_mem_take
      (List.mem_of_mem_drop (List.mem_reverse.mp picked))

variable {β : Type} (f : α → β)

theorem map_everyNth (step wait : Nat) (list : List α) :
    (everyNth step wait list).map f = everyNth step wait (list.map f) := by
  fun_induction everyNth step wait list with
  | case1 wait => rfl
  | case2 element rest induction =>
      rw [List.map_cons, List.map_cons, everyNth, induction]
  | case3 wait element rest induction =>
      rw [List.map_cons, everyNth, induction]

/-- Which elements a slice picks does not depend on what they are. -/
theorem Slice.map_elements (slice : Slice) (list : List α) :
    (slice.elements list).map f = slice.elements (list.map f) := by
  rw [elements, elements, map_everyNth, List.length_map,
    apply_ite (List.map f), List.map_reverse, List.map_drop, List.map_take]

end Lists

/-! ## The numbers of a slice -/

/-- How many steps of some width fit into a distance. -/
theorem lt_toNat_steps_iff
    {distance width : Int}
    (positive : 0 < width)
    (position : Nat) :
    position <
        (if distance ≤ 0 then 0 else (distance - 1) / width + 1).toNat ↔
      position * width < distance := by
  have product : 0 ≤ position * width :=
    Int.mul_nonneg (Int.natCast_nonneg position) (Int.le_of_lt positive)
  split
  · simp only [Int.toNat_zero, Nat.not_lt_zero, false_iff]
    omega
  · have quotient := @Int.le_ediv_iff_mul_le position (distance - 1) _ positive
    have nonneg : 0 ≤ (distance - 1) / width :=
      Int.ediv_nonneg (by omega) (Int.le_of_lt positive)
    omega

/-- A progression goes on for as long as it has not come to its end. -/
theorem getElem?_progression
    {start stop step : Int}
    (moves : step ≠ 0)
    (position : Nat) :
    (progression start stop step)[position]? =
      if position * step.natAbs <
          (if 0 < step then stop - start else start - stop) then
        some (start + position * step)
      else none := by
  have width : 0 < (step.natAbs : Int) := by omega
  rw [progression, List.getElem?_map]
  generalize (if 0 < step then stop - start else start - stop) = distance
  have steps := @lt_toNat_steps_iff distance step.natAbs width position
  by_cases further : position * step.natAbs < distance
  · rw [if_pos further, List.getElem?_range (steps.mpr further)]
    rfl
  · rw [if_neg further, List.getElem?_eq_none, Option.map_none]
    rw [List.length_range]
    exact Nat.le_of_not_lt fun less => further (steps.mp less)

section Progressions

variable {step : Nat} (positive : 0 < step) (first last : Nat)

include positive

/-- The numbers from `first` on up to the one before `last`. -/
theorem progression_upwards :
    progression first last step =
      (everyNth step 0 ((List.range last).drop first)).map Int.ofNat := by
  have upwards : 0 < (step : Int) := by omega
  apply List.ext_getElem?
  intro position
  rw [getElem?_progression (by omega), List.getElem?_map,
    getElem?_everyNth positive, List.getElem?_drop, if_pos upwards,
    Int.natAbs_natCast, Nat.zero_add]
  by_cases inside : first + position * step < last
  · rw [List.getElem?_range inside, if_pos (by omega), Option.map_some]
    congr 1
  · rw [List.getElem?_eq_none (by simpa using inside), if_neg (by omega)]
    rfl

/-- The numbers from the one before `last` on down to `first`. -/
theorem progression_downwards :
    progression (last - 1) (first - 1) (-step) =
      (everyNth step 0 ((List.range last).drop first).reverse).map
        Int.ofNat := by
  have downwards : ¬ 0 < -(step : Int) := by omega
  have length : ((List.range last).drop first).length = last - first := by
    rw [List.length_drop, List.length_range]
  apply List.ext_getElem?
  intro position
  rw [getElem?_progression (by omega), List.getElem?_map,
    getElem?_everyNth positive, if_neg downwards, Int.natAbs_neg,
    Int.natAbs_natCast, Nat.zero_add]
  by_cases inside : position * step < last - first
  · rw [List.getElem?_reverse (by omega), length, List.getElem?_drop,
      List.getElem?_range (by omega), if_pos (by omega), Option.map_some]
    congr 1
    rw [Int.mul_neg, ← Int.natCast_mul, Int.ofNat_eq_natCast]
    omega
  · rw [List.getElem?_eq_none (by rw [List.length_reverse]; omega),
      if_neg (by omega)]
    rfl

end Progressions

namespace Slice

variable (slice : Slice) (count : Nat)

theorem upper_le : slice.upper count ≤ count := by
  have before (bound : Int) : countBefore count bound ≤ count :=
    Nat.min_le_right _ _
  have upTo (bound : Int) : countUpTo count bound ≤ count :=
    Nat.min_le_right _ _
  rw [upper]
  split
  · cases slice.stop with
    | none => exact Nat.le_refl count
    | some bound => exact before bound
  · cases slice.start with
    | none => exact Nat.le_refl count
    | some bound => exact upTo bound

theorem numbers_upwards (upwards : 0 < slice.stride) :
    slice.numbers count =
      progression (slice.lower count) (slice.upper count) slice.stride := by
  have cut (bound : Int) :
      (if bound < 0 then max (bound + count) 0 else min bound count) =
        (countBefore count bound : Int) := by
    rw [countBefore, counted]
    split <;> omega
  rcases slice with ⟨start, stop, step⟩
  rw [lower, upper, if_pos upwards, if_pos upwards]
  rw [stride] at upwards ⊢
  simp only [numbers, if_pos upwards, cut]
  cases start <;> cases stop <;> rfl

theorem numbers_downwards (downwards : ¬ 0 < slice.stride) :
    slice.numbers count =
      progression (slice.upper count - 1) (slice.lower count - 1)
        slice.stride := by
  have cut (bound : Int) :
      (if bound < 0 then max (bound + count) (-1) else min bound (count - 1)) =
        (countUpTo count bound : Int) - 1 := by
    rw [countUpTo, counted]
    split <;> omega
  rcases slice with ⟨start, stop, step⟩
  rw [lower, upper, if_neg downwards, if_neg downwards]
  rw [stride] at downwards ⊢
  simp only [numbers, if_neg downwards, cut]
  cases start <;> cases stop <;> rfl

/-- The numbers that a slice goes through are the slice of all numbers. -/
theorem numbers_eq (moves : slice.stride ≠ 0) :
    slice.numbers count =
      (slice.elements (List.range count)).map Int.ofNat := by
  have width : 0 < slice.stride.natAbs := by omega
  rw [elements, List.length_range, List.take_range,
    Nat.min_eq_left (slice.upper_le count)]
  by_cases upwards : 0 < slice.stride
  · have forwards : (slice.stride.natAbs : Int) = slice.stride := by omega
    rw [if_pos upwards, ← progression_upwards width, forwards]
    exact slice.numbers_upwards count upwards
  · have backwards : -(slice.stride.natAbs : Int) = slice.stride := by omega
    rw [if_neg upwards, ← progression_downwards width, backwards]
    exact slice.numbers_downwards count upwards

end Slice

/-! ## Lines of a document -/

section Lines

variable (lines : List Text)

theorem lineNumbered_eq (index : Int) :
    lineNumbered lines index =
      (elementAt? lines index).elim
        (.error (.outOfRange (counted lines.length index))) .ok := by
  rw [elementAt?_eq, lineNumbered, ← counted]
  split
  · rfl
  · cases lines[(counted lines.length index).toNat]? <;> rfl

theorem lineNumbered_eq_ok_iff {index : Int} {line : Text} :
    lineNumbered lines index = .ok line ↔
      elementAt? lines index = some line := by
  rw [lineNumbered_eq]
  cases elementAt? lines index <;> simp

theorem lineNumbered_eq_error_iff {index : Int} :
    (∃ number, lineNumbered lines index = .error (.outOfRange number)) ↔
      elementAt? lines index = none := by
  rw [lineNumbered_eq]
  cases elementAt? lines index <;> simp

/-- Looking up lines one after another that are all there. -/
theorem mapM_lineNumbered
    {numbers : List Nat}
    (present : ∀ number ∈ numbers, number < lines.length) :
    (numbers.map Int.ofNat).mapM (lineNumbered lines) =
      .ok (numbers.map fun number => lines.getD number []) := by
  induction numbers with
  | nil => rfl
  | cons number numbers induction =>
      have here := present number List.mem_cons_self
      have found :
          lineNumbered lines (Int.ofNat number) =
            .ok (lines.getD number []) := by
        rw [lineNumbered_eq_ok_iff, elementAt?, List.getD_eq_getElem?_getD,
          List.getElem?_eq_getElem here, Option.getD_some]
      rw [List.map_cons, List.mapM_cons, found,
        induction fun other listed =>
          present other (List.mem_cons_of_mem number listed)]
      rfl

/-- A look-up by a slice finds the lines of the slice. -/
theorem linesSliced_eq
    {slice : Slice}
    (moves : slice.step ≠ some 0) :
    linesSliced lines slice = .ok (slice.elements lines) := by
  have strides : slice.stride ≠ 0 := by
    rw [Slice.stride]
    cases step : slice.step with
    | none => decide
    | some step =>
        rintro rfl
        exact moves ‹_›
  have all : (List.range lines.length).map (lines.getD · []) = lines := by
    apply List.ext_getElem
    · rw [List.length_map, List.length_range]
    · intro number _ present
      simp [present]
  rw [linesSliced, if_neg moves, slice.numbers_eq _ strides,
    mapM_lineNumbered, slice.map_elements, all]
  intro number member
  exact List.mem_range.mp (Slice.mem_of_mem_elements member)

end Lines

/--
The lines of a document, one more than there are separators, are looked up as
the elements of a list: by a number, which misses if it is beyond an end, and
by a slice with any bounds, given or left out, and any step but zero.
-/
theorem lines_looked_up (document : Document) :
    document.lines.length = document.content.count separator + 1 ∧
      (∀ (index : Int) (line : Text),
        lineNumbered document.lines index = .ok line ↔
          elementAt? document.lines index = some line) ∧
      (∀ index : Int,
        (∃ number,
            lineNumbered document.lines index =
              .error (.outOfRange number)) ↔
          index < -(document.lines.length : Int) ∨
            (document.lines.length : Int) ≤ index) ∧
      ∀ slice : Slice, slice.step ≠ some 0 →
        linesSliced document.lines slice =
          .ok (slice.elements document.lines) := by
  refine ⟨?_, ?_, ?_, ?_⟩
  · rw [lines, textsOf, List.length_map, length_linesOf]
  · exact fun index line => lineNumbered_eq_ok_iff document.lines
  · intro index
    rw [lineNumbered_eq_error_iff, elementAt?_eq_none_iff]
  · exact fun slice moves => linesSliced_eq document.lines moves

/-- The last line and every second one above it, up to beyond the first. -/
theorem lines_looked_up_sample :
    let document := Document.ofText (Text.ofString "a\nb\r\nc\nd\ne")
    let slice : Slice := ⟨some (-1), some (-9), some (-2)⟩
    slice.step ≠ some 0 ∧
      linesSliced document.lines slice =
        .ok (["e", "c", "a"].map Text.ofString) := by
  intro document slice
  have moves : slice.step ≠ some 0 := by decide
  have elements :
      slice.elements document.lines = ["e", "c", "a"].map Text.ofString := by
    decide +kernel
  refine ⟨moves, ?_⟩
  rw [(lines_looked_up document).2.2.2 slice moves, elements]

end ClauseEditor.Document
