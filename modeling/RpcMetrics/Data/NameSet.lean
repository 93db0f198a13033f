/-!
# Sets of names

A finite set of texts is the strictly ascending list of its members, in code point order.  The
order is part of the type, so a set has one list only: sets with the same members are equal
(`NameSet.ext`), and what is listed is sorted and free of repetition without further care.
-/
namespace RpcMetrics.Data

/-- A finite set of texts, listed in ascending order. -/
structure NameSet where
  /-- The members in ascending order. -/
  toList : List String
  /-- No member is listed twice, and smaller ones come first. -/
  ascending : toList.Pairwise (· < ·) := by simp

namespace NameSet

/-- Puts a name at its place in an ascending list that may hold it already. -/
def insertAscending (name : String) : List String → List String
  | [] => [name]
  | head :: tail =>
    if name < head then name :: head :: tail
    else if name = head then head :: tail
    else head :: insertAscending name tail

/-- Membership after an insertion. -/
theorem mem_insertAscending {name x : String} {names : List String} :
    x ∈ insertAscending name names ↔ x = name ∨ x ∈ names := by
  induction names with
  | nil => simp [insertAscending]
  | cons head tail ih =>
    rw [insertAscending]
    split
    · simp
    · split
      · simp_all
      · simp [ih, or_left_comm]

/-- Insertion keeps the order. -/
theorem pairwise_insertAscending (name : String) {names : List String}
    (hascending : names.Pairwise (· < ·)) : (insertAscending name names).Pairwise (· < ·) := by
  induction names with
  | nil => simp [insertAscending]
  | cons head tail ih =>
    rw [List.pairwise_cons] at hascending
    rw [insertAscending]
    split
    case isTrue hbefore =>
      refine List.pairwise_cons.2 ⟨fun x hx => ?_, List.pairwise_cons.2 hascending⟩
      rcases List.mem_cons.1 hx with rfl | hx
      · exact hbefore
      · exact String.lt_trans hbefore (hascending.1 x hx)
    case isFalse hnotBefore =>
      split
      case isTrue => exact List.pairwise_cons.2 hascending
      case isFalse hne =>
        refine List.pairwise_cons.2 ⟨fun x hx => ?_, ih hascending.2⟩
        rcases mem_insertAscending.1 hx with rfl | hx
        · exact Decidable.byContradiction fun hnotAfter =>
            hne (String.le_antisymm (String.not_lt.1 hnotAfter) (String.not_lt.1 hnotBefore))
        · exact hascending.1 x hx

def empty : NameSet := ⟨[], .nil⟩

/-- The set with one more member. -/
def insert (names : NameSet) (name : String) : NameSet :=
  ⟨insertAscending name names.toList, pairwise_insertAscending name names.ascending⟩

/-- The set of the listed names. -/
def ofList (names : List String) : NameSet := names.foldl insert empty

/-- The members of both sets. -/
def union (left right : NameSet) : NameSet := right.toList.foldl insert left

/-- The number of members. -/
def size (names : NameSet) : Nat := names.toList.length

/-- Whether the set has no members. -/
def isEmpty (names : NameSet) : Bool := names.toList.isEmpty

instance : Membership String NameSet := ⟨fun names name => name ∈ names.toList⟩

instance (name : String) (names : NameSet) : Decidable (name ∈ names) :=
  inferInstanceAs (Decidable (name ∈ names.toList))

/-- Whether the name is a member. -/
def contains (names : NameSet) (name : String) : Bool := decide (name ∈ names)

theorem mem_def {name : String} {names : NameSet} : name ∈ names ↔ name ∈ names.toList := Iff.rfl

@[simp] theorem not_mem_empty (name : String) : name ∉ empty := by simp [mem_def, empty]

@[simp] theorem mem_insert {names : NameSet} {name x : String} :
    x ∈ names.insert name ↔ x = name ∨ x ∈ names := mem_insertAscending

/-- Inserting names one by one adds exactly them. -/
theorem mem_foldl_insert {added : List String} {names : NameSet} {x : String} :
    x ∈ added.foldl insert names ↔ x ∈ added ∨ x ∈ names := by
  induction added generalizing names with
  | nil => simp
  | cons name rest ih => simp [ih, or_left_comm, or_assoc]

@[simp] theorem mem_ofList {names : List String} {x : String} : x ∈ ofList names ↔ x ∈ names := by
  simp [ofList, mem_foldl_insert]

@[simp] theorem mem_union {left right : NameSet} {x : String} :
    x ∈ left.union right ↔ x ∈ left ∨ x ∈ right := by
  rw [union, mem_foldl_insert, or_comm]
  exact Iff.rfl

@[simp] theorem isEmpty_iff {names : NameSet} : names.isEmpty = true ↔ ∀ x, x ∉ names := by
  simp [isEmpty, mem_def, List.eq_nil_iff_forall_not_mem]

/-- No member is listed twice. -/
theorem nodup_toList (names : NameSet) : names.toList.Nodup := by
  refine List.Pairwise.imp ?_ names.ascending
  rintro left right hbefore rfl
  exact String.lt_irrefl _ hbefore

/-- **A set is determined by its members.** -/
theorem ext {left right : NameSet} (h : ∀ x, x ∈ left ↔ x ∈ right) : left = right := by
  have hlists : left.toList = right.toList :=
    List.Perm.eq_of_pairwise (fun _ _ _ _ hbefore hafter => absurd hbefore (String.lt_asymm hafter))
      left.ascending right.ascending
      ((List.perm_ext_iff_of_nodup left.nodup_toList right.nodup_toList).2 h)
  cases left; cases right; cases hlists; rfl

end NameSet
end RpcMetrics.Data
