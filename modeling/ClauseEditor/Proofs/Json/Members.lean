import Mathlib.Data.List.Induction
import Mathlib.Data.List.Nodup
import ClauseEditor.Json.Value

/-!
# The members of an object

Giving a key a value neither moves nor doubles a key, so the members of an
object have different keys.  Members that are given one after another stay as
they are given if their keys are different already.  If a key is given more
than once, it stands where it is given first and has the value that it is
given last.
-/

namespace ClauseEditor.Json.Members

variable {members given : Members} {key : Text} {value : Json}

/-- The keys in their order. -/
abbrev keys (members : Members) : List Text :=
  members.map Prod.fst

theorem insert_of_notMem
    (new : key ∉ members.keys)
    (value : Json) :
    members.insert key value = members ++ [(key, value)] := by
  induction members with
  | nil => rfl
  | cons member rest induction =>
      rcases member with ⟨present, old⟩
      rw [keys, List.map_cons, List.mem_cons, not_or] at new
      rw [insert, if_neg (Ne.symm new.1), induction new.2, List.cons_append]

theorem keys_insert_of_mem
    (present : key ∈ members.keys)
    (value : Json) :
    (members.insert key value).keys = members.keys := by
  induction members with
  | nil => cases present
  | cons member rest induction =>
      rcases member with ⟨first, old⟩
      by_cases same : first = key
      · rw [insert, if_pos same]
        rfl
      · have further : key ∈ keys rest :=
          (List.mem_cons.mp present).resolve_left (Ne.symm same)
        rw [insert, if_neg same, keys, List.map_cons, ← keys,
          induction further]
        rfl

theorem nodup_insert
    (distinct : members.keys.Nodup)
    (key : Text)
    (value : Json) :
    (members.insert key value).keys.Nodup := by
  by_cases present : key ∈ members.keys
  · rwa [keys_insert_of_mem present]
  · rw [insert_of_notMem present, keys, List.map_append, List.map_singleton,
      ← List.concat_eq_append, List.nodup_concat]
    exact ⟨present, distinct⟩

theorem mem_of_mem_insert
    {member : Text × Json}
    (inside : member ∈ members.insert key value) :
    member = (key, value) ∨ member ∈ members := by
  induction members with
  | nil => exact Or.inl (List.mem_singleton.mp inside)
  | cons first rest induction =>
      rcases first with ⟨present, old⟩
      by_cases same : present = key
      · rw [insert, if_pos same, same] at inside
        exact (List.mem_cons.mp inside).imp_right (List.mem_cons_of_mem _)
      · rw [insert, if_neg same] at inside
        rcases List.mem_cons.mp inside with first | further
        · exact Or.inr (first ▸ List.mem_cons_self)
        · exact (induction further).imp_right (List.mem_cons_of_mem _)

/-! ## Members that are given one after another -/

theorem foldl_insert_of_nodup
    (distinct : (members ++ given).keys.Nodup) :
    given.foldl (fun members member => members.insert member.1 member.2)
        members =
      members ++ given := by
  induction given generalizing members with
  | nil => exact (List.append_nil members).symm
  | cons member rest induction =>
      have split : members ++ member :: rest = members ++ [member] ++ rest := by
        rw [List.append_assoc, List.singleton_append]
      have new : member.1 ∉ members.keys := by
        rw [keys, List.map_append, List.map_cons] at distinct
        intro present
        exact (List.nodup_append.mp distinct).2.2 _ present _
          List.mem_cons_self rfl
      rw [List.foldl_cons, insert_of_notMem new]
      rw [split] at distinct ⊢
      exact induction distinct

theorem ofList_of_nodup
    (distinct : members.keys.Nodup) :
    ofList members = members := by
  have all : (keys ([] ++ members)).Nodup := distinct
  exact foldl_insert_of_nodup all

theorem foldl_insert
    (distinct : members.keys.Nodup)
    (given : Members) :
    (given.foldl (fun members member => members.insert member.1 member.2)
          members).keys.Nodup ∧
      ∀ member ∈ given.foldl
            (fun members member => members.insert member.1 member.2) members,
        member ∈ members ∨ member ∈ given := by
  induction given generalizing members with
  | nil => exact ⟨distinct, fun _ inside => Or.inl inside⟩
  | cons first rest induction =>
      rcases induction (nodup_insert distinct first.1 first.2)
        with ⟨stillDistinct, from_⟩
      refine ⟨stillDistinct, fun member inside => ?_⟩
      rcases from_ member inside with before | further
      · rcases mem_of_mem_insert before with rfl | before
        · exact Or.inr List.mem_cons_self
        · exact Or.inl before
      · exact Or.inr (List.mem_cons_of_mem _ further)

theorem nodup_nil : (keys []).Nodup :=
  List.nodup_nil

theorem nodup_ofList (given : Members) : (ofList given).keys.Nodup :=
  (foldl_insert nodup_nil given).1

theorem mem_of_mem_ofList
    {member : Text × Json}
    (inside : member ∈ ofList given) :
    member ∈ given :=
  ((foldl_insert nodup_nil given).2 member inside).resolve_left
    List.not_mem_nil

/-! ## Keys that are given more than once -/

theorem mem_keys_iff : key ∈ members.keys ↔ (members.find? key).isSome = true := by
  rw [find?, Option.isSome_map, List.find?_isSome, keys, List.mem_map]
  constructor
  · rintro ⟨member, inside, rfl⟩
    exact ⟨member, inside, decide_eq_true rfl⟩
  · rintro ⟨member, inside, same⟩
    exact ⟨member, inside, of_decide_eq_true same⟩

theorem find?_append (members more : Members) (key : Text) :
    find? (members ++ more) key = (members.find? key).or (more.find? key) := by
  rw [find?, List.find?_append, Option.map_or, find?, find?]

/-- The value that a key is given last. -/
def last? (given : Members) (key : Text) : Option Json :=
  (given.filter fun member => member.1 = key).getLast?.map Prod.snd

theorem ofList_concat (given : Members) (member : Text × Json) :
    ofList (given ++ [member]) = (ofList given).insert member.1 member.2 := by
  rw [ofList, List.foldl_append]
  rfl

/-- The value that counts is the last one. -/
theorem find?_ofList (given : Members) (key : Text) :
    (ofList given).find? key = given.last? key := by
  induction given using List.reverseRecOn with
  | nil => rfl
  | append_singleton given member induction =>
      rw [ofList_concat, last?, List.filter_append]
      by_cases same : member.1 = key
      · subst same
        simp
      · rw [find?_insert_of_ne (Ne.symm same), induction, last?]
        simp [same]

/-- Each key stands where it is given first. -/
theorem keys_ofList (given : Members) :
    (ofList given).keys = given.keys.eraseDups := by
  induction given using List.reverseRecOn with
  | nil => rfl
  | append_singleton given member induction =>
      have known : member.1 ∈ (ofList given).keys ↔ member.1 ∈ keys given := by
        rw [induction, List.mem_eraseDups]
      have split : keys (given ++ [member]) = keys given ++ [member.1] :=
        List.map_append
      rw [ofList_concat, split, List.eraseDups_append, ← induction]
      by_cases present : member.1 ∈ keys given
      · have removed : [member.1].removeAll (keys given) = [] := by
          simp [List.removeAll, present]
        rw [keys_insert_of_mem (known.mpr present), removed]
        exact (List.append_nil _).symm
      · have kept : [member.1].removeAll (keys given) = [member.1] := by
          simp [List.removeAll, present]
        rw [insert_of_notMem (mt known.mp present), kept]
        exact List.map_append

end ClauseEditor.Json.Members
