import Mathlib
import RpcMetrics.Proofs.CommandRefusals
import RpcMetrics.Proofs.FilterSpelling

/-! # Which conditions of a command line count

A condition on the command line is a key, an equals sign and a value, where the
key ends at the first equals sign (`Cli.Says`).  `Cli.readFilters` files the
values under their keys before it makes conditions of them, so what becomes of
an argument depends on the others: a value that is filed under a key in use
replaces the old one (`Data.Dictionary.entries_ofList_perm`).

**Of arguments with one key only the last counts** (`Cli.readFilters_exact`).
All of them count iff no key comes twice, and only then does the filter hold one
condition for each argument.  The key is compared as it is written: `region` and
`region__eq` ask for the same comparison and are still two keys. -/
namespace RpcMetrics

/-! ### Values that are filed one after the other -/

namespace Data.Dictionary
variable {α : Type}

/-- What is listed under a key is what is found under it. -/
theorem mem_entries_iff {dictionary : Dictionary α} {key : String} {value : α} :
    (key, value) ∈ dictionary.entries ↔ dictionary.get? key = some value := by
  constructor
  · intro hentry
    obtain ⟨before, after, hsplit⟩ := List.append_of_mem hentry
    have hascending := dictionary.ascending
    rw [hsplit, List.pairwise_append] at hascending
    have hbefore : ∀ entry ∈ before, key ≠ entry.1 := by
      intro entry hin hsame
      have hlt := hascending.2.2 entry hin _ (List.mem_cons_self ..)
      exact String.lt_irrefl _ (hsame ▸ hlt)
    exact List.lookup_eq_some_iff.2 ⟨before, after, hsplit, by simpa using hbefore⟩
  · exact mem_entries_of_get?

/-- Filed under a key is the last value that comes with it. -/
theorem mem_pwFilter_iff {filed : List (String × α)} {key : String} {value : α} :
    (key, value) ∈ filed.pwFilter (fun left right => left.1 ≠ right.1) ↔
      filed.reverse.lookup key = some value := by
  induction filed generalizing key value with
  | nil => simp
  | cons entry rest ih =>
    obtain ⟨first, old⟩ := entry
    rw [List.reverse_cons, List.lookup_append]
    by_cases hlater : ∀ other ∈ rest.pwFilter (fun left right => left.1 ≠ right.1), first ≠ other.1
    · rw [List.pwFilter_cons_of_pos hlater, List.mem_cons, ih]
      by_cases hkey : key = first
      · -- nothing is filed under the key later on
        subst hkey
        have hnone : rest.reverse.lookup key = none := by
          refine Option.eq_none_iff_forall_ne_some.2 fun later hfound => ?_
          exact hlater _ (ih.2 hfound) rfl
        simp [hnone, eq_comm]
      · have hother : (key == first) = false := beq_eq_false_iff_ne.2 hkey
        simp [hkey, List.lookup_cons, hother]
    · rw [List.pwFilter_cons_of_neg hlater, ih]
      by_cases hkey : key = first
      · subst hkey
        push Not at hlater
        obtain ⟨⟨_, later⟩, hin, rfl⟩ := hlater
        rw [ih.1 hin, Option.some_or]
      · have hother : (key == first) = false := beq_eq_false_iff_ne.2 hkey
        simp [List.lookup_cons, hother]

/-- **A dictionary lists what is not replaced**: of the entries with one key, the
last. -/
theorem entries_ofList_perm (filed : List (String × α)) :
    (ofList filed).entries.Perm (filed.pwFilter fun left right => left.1 ≠ right.1) := by
  have hlisted : (ofList filed).entries.Nodup := by
    refine (ofList filed).ascending.imp ?_
    rintro left _ hlt rfl
    exact String.lt_irrefl _ hlt
  have hkept : (filed.pwFilter fun left right => left.1 ≠ right.1).Nodup := by
    refine (List.pairwise_pwFilter filed).imp ?_
    rintro left _ hne rfl
    exact hne rfl
  refine (List.perm_ext_iff_of_nodup hlisted hkept).2 ?_
  rintro ⟨key, value⟩
  rw [mem_entries_iff, mem_pwFilter_iff, get?_ofList]

end Data.Dictionary

namespace Cli

/-! ### Arguments -/

/-- **What an argument says**: a condition on one value.  The key is all that stands
before the first equals sign, and the value all that stands after it. -/
def Says (arg : String) (condition : Condition) : Prop :=
  ∃ key value, arg = key ++ "=" ++ value ∧ '=' ∉ key.toList ∧
    Filter.KeySays key condition.field condition.op ∧ condition.values = [value]

/-- The text before the first equals sign of an argument. -/
def keyOf (arg : String) : String := String.ofList (arg.toList.takeWhile (· != '='))

/-- The text after the first equals sign of an argument. -/
def valueOf (arg : String) : String := String.ofList (arg.toList.dropWhile (· != '=')).tail

/-- A key and a value are what stands before and after the first equals sign. -/
theorem readFilter_eq_ok_iff {arg key value : String} :
    readFilter arg = .ok (key, value) ↔ arg = key ++ "=" ++ value ∧ '=' ∉ key.toList := by
  constructor
  · intro h
    unfold readFilter at h
    split at h
    · next c after hdrop =>
      have hc : c = '=' := by
        have hhead := List.head?_dropWhile_not (· != '=') arg.toList
        simpa [hdrop] using hhead
      obtain ⟨hkey, hvalue⟩ := Prod.mk.inj (Except.ok.inj h)
      have hsplit : arg.toList = arg.toList.takeWhile (· != '=') ++ '=' :: after := by
        subst hc
        rw [← hdrop, List.takeWhile_append_dropWhile]
      constructor
      · apply String.toList_inj.1
        rw [hsplit, ← hkey, ← hvalue]
        simp
      · rw [← hkey, String.toList_ofList]
        intro hin
        have hbefore := List.all_eq_true.1 List.all_takeWhile _ hin
        simp at hbefore
    · cases h
  · rintro ⟨rfl, hfirst⟩
    exact readFilter_split hfirst

theorem parts_of_readFilter {arg : String} {entry : String × String}
    (h : readFilter arg = .ok entry) : entry = (keyOf arg, valueOf arg) := by
  unfold readFilter at h
  split at h
  · next hdrop =>
    rw [keyOf, valueOf, hdrop]
    exact (Except.ok.inj h).symm
  · cases h

theorem says_iff {arg : String} {condition : Condition} : Says arg condition ↔
    readFilter arg = .ok (keyOf arg, valueOf arg) ∧
      Filter.Spells (keyOf arg, .string (valueOf arg)) condition := by
  have hstring (value : String) (texts : List String) :
      Filter.ValueSays (.string value) texts ↔ texts = [value] := by
    rw [← Filter.valueTexts?_eq_some_iff]
    exact ⟨fun h => (Option.some.inj h).symm, fun h => congrArg some h.symm⟩
  unfold Filter.Spells
  rw [hstring]
  constructor
  · rintro ⟨key, value, hsplit, hfirst, hkey, hvalues⟩
    have hread := readFilter_eq_ok_iff.2 ⟨hsplit, hfirst⟩
    obtain ⟨rfl, rfl⟩ := Prod.mk.inj (parts_of_readFilter hread)
    exact ⟨hread, hkey, hvalues⟩
  · rintro ⟨hread, hkey, hvalues⟩
    obtain ⟨hsplit, hfirst⟩ := readFilter_eq_ok_iff.1 hread
    exact ⟨_, _, hsplit, hfirst, hkey, hvalues⟩

/-- An argument says one thing only. -/
theorem rightUnique_says : Relator.RightUnique Says := by
  rintro arg ⟨field, op, values⟩ ⟨field', op', values'⟩ hsays hsays'
  have hread := Filter.readSpec_eq_ok_iff.2 (says_iff.1 hsays).2
  have hread' := Filter.readSpec_eq_ok_iff.2 (says_iff.1 hsays').2
  exact Except.ok.inj (hread.symm.trans hread')

/-- An argument says something, or it is no condition. -/
theorem exists_says_of_condition {arg : String} (h : ¬ NoCondition arg) :
    ∃ condition, Says arg condition := by
  cases hread : readFilter arg with
  | error fault =>
    refine absurd (.unsigned fun hsigned => ?_) h
    unfold readFilter at hread
    split at hread
    · cases hread
    · next hdrop =>
      have hother := List.dropWhile_eq_nil_iff.1 hdrop _ hsigned
      simp at hother
  | ok entry =>
    obtain rfl := parts_of_readFilter hread
    obtain ⟨hsplit, hfirst⟩ := readFilter_eq_ok_iff.1 hread
    cases hspecs : Filter.ofSpecs [(keyOf arg, .string (valueOf arg))] with
    | error failure => exact absurd (.rejected hsplit hfirst hspecs) h
    | ok filter =>
      obtain ⟨condition, -, hspells⟩ := exists_of_forall₂ (Filter.ofSpecs_eq_ok_iff.1 hspecs).flip
        _ (List.mem_singleton_self _)
      exact ⟨condition, says_iff.2 ⟨hread, hspells⟩⟩

/-! ### The filter of a command line -/

/-- The arguments of which the key does not come again. -/
def lastOfKeys (args : List String) : List String :=
  args.pwFilter fun arg later => keyOf arg ≠ keyOf later

theorem lastOfKeys_eq_self_iff {args : List String} :
    lastOfKeys args = args ↔ (args.map keyOf).Nodup := by
  rw [lastOfKeys, List.pwFilter_eq_self, List.Nodup, List.pairwise_map]

/-- The key and the value of an argument. -/
def parts (arg : String) : String × String := (keyOf arg, valueOf arg)

theorem mapM_readFilter_eq_ok_iff {args : List String} {entries : List (String × String)} :
    args.mapM readFilter = .ok entries ↔
      (∀ arg ∈ args, readFilter arg = .ok (parts arg)) ∧ entries = args.map parts := by
  rw [mapM_eq_ok_iff]
  constructor
  · intro hread
    have hentries : List.Forall₂ Eq (args.map parts) entries := by
      rw [List.forall₂_map_left_iff]
      exact hread.imp fun arg entry h => (parts_of_readFilter h).symm
    rw [List.forall₂_eq_eq_eq] at hentries
    subst hentries
    rw [List.forall₂_map_right_iff, List.forall₂_same] at hread
    exact ⟨hread, rfl⟩
  · rintro ⟨hread, rfl⟩
    rw [List.forall₂_map_right_iff, List.forall₂_same]
    exact hread

/-- Arguments are accepted if each can be taken apart and the values, filed under
their keys, spell conditions. -/
theorem readFilters_eq_ok_iff {args : List String} {filter : Filter} :
    Action.result (readFilters args) = .ok filter ↔
      (∀ arg ∈ args, readFilter arg = .ok (parts arg)) ∧
        List.Forall₂ (fun entry condition => Filter.Spells (entry.1, .string entry.2) condition)
          (Data.Dictionary.ofList (args.map parts)).entries filter.conditions := by
  unfold readFilters
  cases hread : args.mapM readFilter with
  | error fault =>
    have hnone : ¬ ∀ arg ∈ args, readFilter arg = .ok (parts arg) := by
      intro hall
      rw [mapM_readFilter_eq_ok_iff.2 ⟨hall, rfl⟩] at hread
      cases hread
    constructor
    · intro h
      cases h
    · rintro ⟨hall, -⟩
      exact absurd hall hnone
  | ok entries =>
    obtain ⟨hall, rfl⟩ := mapM_readFilter_eq_ok_iff.1 hread
    rw [and_iff_right hall, ← List.forall₂_map_left_iff (f := fun entry : String × String =>
      (entry.1, Json.string entry.2)), ← Filter.ofSpecs_eq_ok_iff]
    exact Action.result_check_eq_ok_iff

/-- **Of the arguments with one key the last is kept**, and makes one condition. -/
theorem exists_kept {args : List String} {filter : Filter}
    (h : Action.result (readFilters args) = .ok filter) :
    ∃ kept, List.Forall₂ Says (lastOfKeys args) kept ∧ filter.conditions.Perm kept := by
  obtain ⟨hread, hspells⟩ := readFilters_eq_ok_iff.1 h
  have hfiled : ((lastOfKeys args).map parts).Perm
      (Data.Dictionary.ofList (args.map parts)).entries := by
    have hperm := Data.Dictionary.entries_ofList_perm (args.map parts)
    rw [List.pwFilter_map] at hperm
    exact hperm.symm
  obtain ⟨kept, hkept, hperm⟩ := List.perm_comp_forall₂ hfiled hspells
  rw [List.forall₂_map_left_iff] at hkept
  refine ⟨kept, ?_, hperm.symm⟩
  have hlast : ∀ arg ∈ lastOfKeys args, readFilter arg = .ok (parts arg) := by
    intro arg harg
    exact hread arg (List.pwFilter_subset args harg)
  have hboth := (List.forall₂_and_left _ _).2 ⟨hlast, hkept⟩
  exact hboth.imp fun arg condition hsays => says_iff.2 hsays

/-- **Arguments are accepted iff each says something.** -/
theorem exists_readFilters_iff {args : List String} :
    (∃ filter, Action.result (readFilters args) = .ok filter) ↔
      ∀ arg ∈ args, ∃ condition, Says arg condition := by
  constructor
  · rintro ⟨filter, hfilter⟩ arg harg
    refine exists_says_of_condition fun hnone => ?_
    obtain ⟨⟨fault, hfault⟩, -⟩ := readFilters_refuses harg hnone
    rw [hfault] at hfilter
    cases hfilter
  · intro hsays
    have hread : ∀ arg ∈ args, readFilter arg = .ok (parts arg) := by
      intro arg harg
      obtain ⟨condition, hcondition⟩ := hsays arg harg
      exact (says_iff.1 hcondition).1
    let filed := (Data.Dictionary.ofList (args.map parts)).entries
    have hspecs : ∀ spec ∈ filed.map (fun entry => (entry.1, Json.string entry.2)),
        (∃ field op, Filter.KeySays spec.1 field op) ∧ ∃ texts, Filter.ValueSays spec.2 texts := by
      intro spec hspec
      obtain ⟨entry, hentry, rfl⟩ := List.mem_map.1 hspec
      obtain ⟨arg, harg, rfl⟩ := List.mem_map.1 (Data.Dictionary.mem_of_mem_ofList hentry)
      obtain ⟨condition, hcondition⟩ := hsays arg harg
      obtain ⟨-, hkey, hvalues⟩ := says_iff.1 hcondition
      exact ⟨⟨_, _, hkey⟩, _, hvalues⟩
    obtain ⟨filter, hfilter⟩ := Filter.exists_ofSpecs_iff.2 hspecs
    rw [Filter.ofSpecs_eq_ok_iff, List.forall₂_map_left_iff] at hfilter
    exact ⟨filter, readFilters_eq_ok_iff.2 ⟨hread, hfilter⟩⟩

/-- **What becomes of conditions on a command line.**  They are accepted iff each
says something.  The filter then holds what the last argument with each key says,
once; and it holds what all of them say, one condition for each, iff no key comes
twice. -/
theorem readFilters_exact (args : List String) :
    ((∃ filter, Action.result (readFilters args) = .ok filter) ↔
      ∀ arg ∈ args, ∃ condition, Says arg condition) ∧
    ∀ filter, Action.result (readFilters args) = .ok filter →
      ∃ said kept : List Condition, List.Forall₂ Says args said ∧
        List.Forall₂ Says (lastOfKeys args) kept ∧ filter.conditions.Perm kept ∧
        (filter.conditions.Perm said ↔ (args.map keyOf).Nodup) := by
  refine ⟨exists_readFilters_iff, fun filter hfilter => ?_⟩
  obtain ⟨said, hsaid⟩ := exists_forall₂ (exists_readFilters_iff.1 ⟨filter, hfilter⟩)
  obtain ⟨kept, hkept, hperm⟩ := exists_kept hfilter
  refine ⟨said, kept, hsaid, hkept, hperm, ?_⟩
  rw [← lastOfKeys_eq_self_iff]
  constructor
  · -- as many conditions as arguments are kept only if all arguments are
    intro hall
    have hlength : (lastOfKeys args).length = args.length := by
      rw [hkept.length_eq, hsaid.length_eq, ← hperm.length_eq, hall.length_eq]
    exact (List.pwFilter_sublist args).eq_of_length hlength
  · intro hall
    rw [hall] at hkept
    rw [List.right_unique_forall₂' rightUnique_says hsaid hkept]
    exact hperm

/-- Three arguments on one tag: the first and the last share their key, and only the
last of them counts.  The second asks for the same comparison under another key,
and counts as well. -/
theorem readFilters_exact_regions :
    let args := ["zone=a=b", "region=x", "region__eq=y", "region=z"]
    ∃ filter, Action.result (readFilters args) = .ok filter ∧
      filter.conditions = [⟨"region", .eq, ["z"]⟩, ⟨"region", .eq, ["y"]⟩, ⟨"zone", .eq, ["a=b"]⟩] ∧
      ∃ said kept, List.Forall₂ Says args said ∧
        List.Forall₂ Says ["zone=a=b", "region__eq=y", "region=z"] kept ∧
        filter.conditions.Perm kept ∧ ¬ filter.conditions.Perm said := by
  intro args
  have hfilter : Action.result (readFilters args) =
      .ok ⟨[⟨"region", .eq, ["z"]⟩, ⟨"region", .eq, ["y"]⟩, ⟨"zone", .eq, ["a=b"]⟩]⟩ := by
    decide +kernel
  obtain ⟨said, kept, hsaid, hkept, hperm, hall⟩ := (readFilters_exact args).2 _ hfilter
  have hlast : lastOfKeys args = ["zone=a=b", "region__eq=y", "region=z"] := by
    decide +kernel
  have hrepeated : ¬ (args.map keyOf).Nodup := by
    decide +kernel
  rw [hlast] at hkept
  exact ⟨_, hfilter, rfl, said, kept, hsaid, hkept, hperm, fun h => hrepeated (hall.1 h)⟩

/-- Calls from two servers are to be left out, and those from the first are not. -/
theorem readFilters_forgets_first :
    ∃ filter, Action.result (readFilters ["caller_server__neq=svcA", "caller_server__neq=svcB"]) =
        .ok filter ∧
      Says "caller_server__neq=svcA" ⟨"caller_server", .neq, ["svcA"]⟩ ∧
      ⟨"caller_server", .neq, ["svcA"]⟩ ∉ filter.conditions := by
  refine ⟨⟨[⟨"caller_server", .neq, ["svcB"]⟩]⟩, by decide +kernel, ?_, by decide⟩
  have hkey : Filter.KeySays ("caller_server" ++ "__" ++ Comparison.neq.name) "caller_server"
      .neq :=
    .suffixed (by decide) .neq
  exact ⟨_, "svcA", rfl, by decide, hkey, rfl⟩

end Cli
end RpcMetrics
