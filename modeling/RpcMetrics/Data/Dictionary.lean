/-!
# Dictionaries

Values filed under texts, listed with the keys strictly ascending in code point order.  Filing a
value under a key in use replaces the old value, so the last one filed is found.
-/
namespace RpcMetrics.Data

/-- Values under texts, in ascending order of the texts. -/
structure Dictionary (α : Type) where
  /-- The keys with their values, in ascending order. -/
  entries : List (String × α)
  /-- No key is listed twice, and smaller ones come first. -/
  ascending : entries.Pairwise fun left right => left.1 < right.1 := by simp

namespace Dictionary

variable {α : Type}

/-- Files a value at the place of its key in an ascending list. -/
def insertAscending (key : String) (value : α) : List (String × α) → List (String × α)
  | [] => [(key, value)]
  | head :: tail =>
    if key < head.1 then (key, value) :: head :: tail
    else if key = head.1 then (key, value) :: tail
    else head :: insertAscending key value tail

/-- An entry after an insertion is the new one or an old one. -/
theorem mem_of_mem_insertAscending {key : String} {value : α} {x : String × α}
    {entries : List (String × α)} (hx : x ∈ insertAscending key value entries) :
    x = (key, value) ∨ x ∈ entries := by
  induction entries with
  | nil => simpa [insertAscending] using hx
  | cons head tail ih =>
    rw [insertAscending] at hx
    split at hx
    · simpa using hx
    · split at hx
      · rcases List.mem_cons.1 hx with hnew | hold
        · exact .inl hnew
        · exact .inr (List.mem_cons_of_mem _ hold)
      · rcases List.mem_cons.1 hx with rfl | hx
        · exact .inr (List.mem_cons_self ..)
        · exact (ih hx).imp_right (List.mem_cons_of_mem _)

/-- Insertion keeps the order. -/
theorem pairwise_insertAscending (key : String) (value : α) {entries : List (String × α)}
    (hascending : entries.Pairwise fun left right => left.1 < right.1) :
    (insertAscending key value entries).Pairwise fun left right => left.1 < right.1 := by
  induction entries with
  | nil => simp [insertAscending]
  | cons head tail ih =>
    rw [List.pairwise_cons] at hascending
    rw [insertAscending]
    split
    case isTrue hbefore =>
      refine List.pairwise_cons.2 ⟨fun x hx => ?_, List.pairwise_cons.2 hascending⟩
      rcases List.mem_cons.1 hx with rfl | hx
      · exact hbefore
      · exact String.lt_trans hbefore (hascending.1 x hx)
    case isFalse hnotBefore =>
      split
      case isTrue hsame =>
        exact List.pairwise_cons.2 ⟨fun x hx => hsame ▸ hascending.1 x hx, hascending.2⟩
      case isFalse hne =>
        refine List.pairwise_cons.2 ⟨fun x hx => ?_, ih hascending.2⟩
        rcases mem_of_mem_insertAscending hx with rfl | hx
        · exact Decidable.byContradiction fun hnotAfter =>
            hne (String.le_antisymm (String.not_lt.1 hnotAfter) (String.not_lt.1 hnotBefore))
        · exact hascending.1 x hx

def empty : Dictionary α := ⟨[], .nil⟩

/-- Files a value under a key, in place of the one filed there. -/
def insert (dictionary : Dictionary α) (key : String) (value : α) : Dictionary α :=
  ⟨insertAscending key value dictionary.entries,
    pairwise_insertAscending key value dictionary.ascending⟩

/-- The entries filed in order, the last under a key staying. -/
def ofList (entries : List (String × α)) : Dictionary α :=
  entries.foldl (fun dictionary entry => dictionary.insert entry.1 entry.2) empty

def get? (dictionary : Dictionary α) (key : String) : Option α := dictionary.entries.lookup key

/-- The value just filed is found. -/
theorem lookup_insertAscending_self (key : String) (value : α) (entries : List (String × α)) :
    (insertAscending key value entries).lookup key = some value := by
  induction entries with
  | nil => simp [insertAscending]
  | cons head tail ih =>
    rw [insertAscending]
    split
    · simp
    · split
      · simp
      case isFalse hne =>
        obtain ⟨k, v⟩ := head
        have hne' : (key == k) = false := beq_eq_false_iff_ne.2 hne
        simpa [List.lookup_cons, hne'] using ih

/-- The values under other keys stay. -/
theorem lookup_insertAscending_ne {key other : String} (h : other ≠ key) (value : α)
    (entries : List (String × α)) :
    (insertAscending key value entries).lookup other = entries.lookup other := by
  have hne : (other == key) = false := beq_eq_false_iff_ne.2 h
  induction entries with
  | nil => simp [insertAscending, List.lookup_cons, hne]
  | cons head tail ih =>
    obtain ⟨k, v⟩ := head
    rw [insertAscending]
    split
    · simp [List.lookup_cons, hne]
    · split
      case isTrue hsame =>
        subst hsame
        simp [List.lookup_cons, hne]
      case isFalse =>
        simp only [List.lookup_cons, ih]

@[simp] theorem get?_empty (key : String) : (empty : Dictionary α).get? key = none := rfl

/-- **The last value filed under a key is the one found.** -/
theorem get?_insert (dictionary : Dictionary α) (key other : String) (value : α) :
    (dictionary.insert key value).get? other =
      if other = key then some value else dictionary.get? other := by
  split
  case isTrue hsame => subst hsame; exact lookup_insertAscending_self ..
  case isFalse hne => exact lookup_insertAscending_ne hne ..

/-- **Of entries that are filed in order, the last with a key is the one found.** -/
theorem get?_ofList (entries : List (String × α)) (key : String) :
    (ofList entries).get? key = entries.reverse.lookup key := by
  have hfold (dictionary : Dictionary α) :
      (entries.foldl (fun dictionary entry => dictionary.insert entry.1 entry.2) dictionary).get?
        key = (entries.reverse.lookup key).or (dictionary.get? key) := by
    induction entries generalizing dictionary with
    | nil => rfl
    | cons entry rest ih =>
      obtain ⟨k, value⟩ := entry
      rw [List.foldl_cons, ih, get?_insert, List.reverse_cons, List.lookup_append]
      by_cases hsame : key = k
      · subst hsame
        simp
      · have hne : (key == k) = false := beq_eq_false_iff_ne.2 hsame
        simp [List.lookup_cons, hne, hsame]
  rw [ofList, hfold, get?_empty, Option.or_none]

/-- Dictionaries with the same entries are equal. -/
theorem eq_of_entries {left right : Dictionary α} (h : left.entries = right.entries) :
    left = right := by
  cases left; cases right; cases h; rfl

/-- A key after all others is filed at the end. -/
theorem insertAscending_of_forall_lt {key : String} (value : α) {entries : List (String × α)}
    (h : ∀ entry ∈ entries, entry.1 < key) :
    insertAscending key value entries = entries ++ [(key, value)] := by
  induction entries with
  | nil => rfl
  | cons head tail ih =>
    obtain ⟨hhead, htail⟩ := List.forall_mem_cons.1 h
    have hne : key ≠ head.1 := fun hsame => String.lt_irrefl _ (hsame ▸ hhead)
    rw [insertAscending, if_neg (String.lt_asymm hhead), if_neg hne, ih htail,
      List.cons_append]

/-- **A dictionary is that of its entries.** -/
theorem ofList_entries (dictionary : Dictionary α) : ofList dictionary.entries = dictionary := by
  have hfold (front : Dictionary α) (rest : List (String × α))
      (hascending : (front.entries ++ rest).Pairwise fun left right => left.1 < right.1) :
      (rest.foldl (fun dictionary entry => dictionary.insert entry.1 entry.2) front).entries =
        front.entries ++ rest := by
    induction rest generalizing front with
    | nil => rw [List.foldl_nil, List.append_nil]
    | cons entry rest ih =>
      have hbefore : ∀ other ∈ front.entries, other.1 < entry.1 := fun other hother =>
        (List.pairwise_append.1 hascending).2.2 other hother entry (List.mem_cons_self ..)
      have hlast : (front.insert entry.1 entry.2).entries = front.entries ++ [entry] :=
        insertAscending_of_forall_lt entry.2 hbefore
      have hmoved : front.entries ++ entry :: rest = front.entries ++ [entry] ++ rest := by
        rw [List.append_assoc, List.singleton_append]
      rw [List.foldl_cons, ih _ (by rw [hlast, ← hmoved]; exact hascending), hlast, ← hmoved]
  exact eq_of_entries (hfold empty dictionary.entries dictionary.ascending)

/-- Only what is filed is listed. -/
theorem mem_of_mem_ofList {filed : List (String × α)} {entry : String × α}
    (h : entry ∈ (ofList filed).entries) : entry ∈ filed := by
  have hlisted (dictionary : Dictionary α) (rest : List (String × α))
      (hentry : entry ∈ (rest.foldl (fun dictionary entry => dictionary.insert entry.1 entry.2)
        dictionary).entries) : entry ∈ dictionary.entries ∨ entry ∈ rest := by
    induction rest generalizing dictionary with
    | nil => exact .inl hentry
    | cons head rest ih =>
      rcases ih _ hentry with hfiled | hrest
      · rcases mem_of_mem_insertAscending hfiled with rfl | hold
        · exact .inr (List.mem_cons_self ..)
        · exact .inl hold
      · exact .inr (List.mem_cons_of_mem _ hrest)
  exact (hlisted empty filed h).resolve_left List.not_mem_nil

/-- What is found is listed. -/
theorem mem_entries_of_get? {dictionary : Dictionary α} {key : String} {value : α}
    (h : dictionary.get? key = some value) : (key, value) ∈ dictionary.entries := by
  obtain ⟨before, after, hentries, -⟩ := List.lookup_eq_some_iff.1 h
  rw [hentries]
  exact List.mem_append_right _ (List.mem_cons_self ..)

end Dictionary
end RpcMetrics.Data
