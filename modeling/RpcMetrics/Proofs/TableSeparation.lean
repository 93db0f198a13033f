import RpcMetrics.Proofs.WrittenDigits
import RpcMetrics.Table

/-! # Tables of different applications

The name of a table is put together from the owner, a part that is the same for
all, and the name of the application, with underscores between them; any of these
parts may hold underscores and digits of its own.  What tells two names apart is
where the digits of the owner end (`signed_append_inj`): they begin right after a
mark that stands for the sign, and no digit follows them.  The keys of overrides
are told apart in the same way, although an application may be called anything.

**Applications of different owners never share a table by the rule, and an
override is for one application only** (`resolve_separates`).
-/
namespace RpcMetrics

namespace TableNaming

/-! ### Names by the rule -/

theorem toList_owner (business : Int64) :
    (owner business).toList = Decimal.signed "space_".toList business.toInt := by
  have hneg : business < 0 ↔ business.toInt < 0 := by
    rw [Int64.lt_iff_toInt_lt, Int64.toInt_zero]
  by_cases h : business < 0
  · simp [owner, Decimal.signed, Decimal.writeNat, h, hneg.1 h]
  · rw [owner, if_neg h, Decimal.toList_writeInt, Decimal.signed, Decimal.signed,
      if_neg (mt hneg.2 h), if_neg (mt hneg.2 h)]

theorem toList_normalize (app : String) : (normalize app).toList =
    (Text.lowerFrom [] app.toList).map fun c => if c = '-' then '_' else c := by
  rw [normalize, Text.lower, String.toList_map, String.toList_ofList]

/-- **A table by the rule tells the owner, and the application as tables spell it.** -/
theorem derive_inj {naming : TableNaming} {b₁ b₂ : Int64} {a₁ a₂ : String}
    (h : naming.derive b₁ a₁ = naming.derive b₂ a₂) : b₁ = b₂ ∧ normalize a₁ = normalize a₂ := by
  have htext (b : Int64) (a : String) : (naming.derive b a).toList =
      Decimal.signed "space_".toList b.toInt ++ '_' ::
        (naming.middle.toList ++ '_' :: ((normalize a).toList ++ ".__default__".toList)) := by
    simp [derive, toList_owner]
  have hlists := congrArg String.toList h
  rw [htext, htext] at hlists
  obtain ⟨howner, hrest⟩ := Decimal.signed_append_inj (by decide) (by decide) hlists
  have hname := (List.cons_eq_cons.1 (List.append_cancel_left hrest)).2
  exact ⟨Int64.toInt_inj.1 howner, String.toList_inj.1 (List.append_cancel_right hname)⟩

/-! ### Overrides -/

/-- **A key is that of one application only.** -/
theorem overrideKey_inj {b₁ b₂ : Int64} {a₁ a₂ : String}
    (h : overrideKey b₁ a₁ = overrideKey b₂ a₂) : b₁ = b₂ ∧ a₁ = a₂ := by
  have htext (b : Int64) (a : String) :
      (overrideKey b a).toList = Decimal.signed ['-'] b.toInt ++ '/' :: a.toList := by
    simp [overrideKey, Decimal.toList_writeInt]
  have hlists := congrArg String.toList h
  rw [htext, htext] at hlists
  obtain ⟨hbusiness, happ⟩ := Decimal.signed_append_inj (by decide) (by decide) hlists
  exact ⟨Int64.toInt_inj.1 hbusiness, String.toList_inj.1 happ⟩

/-- The naming without its overrides. -/
def plain (naming : TableNaming) : TableNaming := { naming with overrides := .empty }

/-- An entry of the overrides that gives an application its table. -/
structure Uses (naming : TableNaming) (business : Int64) (app : String)
    (entry : String × String) : Prop where
  app_ne_empty : app ≠ ""
  listed : entry ∈ naming.overrides.entries
  filed : entry.1 = overrideKey business app

variable {naming : TableNaming} {business : Int64} {app : String}

theorem resolve_plain (happ : app ≠ "") :
    naming.plain.resolve business app = .ok (naming.derive business app) := by
  rw [resolve, if_neg (by simpa using happ)]
  rfl

/-- An application without an entry has the table by the rule, if any. -/
theorem resolve_of_override?_none (h : naming.override? business app = none) :
    naming.resolve business app = naming.plain.resolve business app := by
  by_cases happ : app = ""
  · subst happ
    rfl
  · rw [resolve_plain happ, resolve, if_neg (by simpa using happ), h]

/-- **An application either uses an entry or is as if there were none.** -/
theorem uses_or_plain (naming : TableNaming) (business : Int64) (app : String) :
    (∃ entry, naming.Uses business app entry ∧ naming.resolve business app = .ok entry.2) ∨
      (¬ ∃ entry, naming.Uses business app entry) ∧
        naming.resolve business app = naming.plain.resolve business app := by
  cases hfound : naming.override? business app with
  | none =>
    refine Or.inr ⟨?_, resolve_of_override?_none hfound⟩
    rintro ⟨⟨key, table⟩, hlisted⟩
    have hsome : (naming.override? business app).isSome :=
      List.lookup_isSome_iff.2 ⟨_, hlisted.listed, beq_iff_eq.2 hlisted.filed.symm⟩
    rw [hfound] at hsome
    cases hsome
  | some table =>
    by_cases happ : app = ""
    · subst happ
      exact Or.inr ⟨fun ⟨entry, hentry⟩ => hentry.app_ne_empty rfl, rfl⟩
    · refine Or.inl ⟨(overrideKey business app, table), ⟨happ, ?_, rfl⟩, ?_⟩
      · exact Data.Dictionary.mem_entries_of_get? hfound
      · rw [resolve, if_neg (by simpa using happ), hfound]

/-- **Tables keep applications apart.**  By the rule two applications share a table
iff they have the same owner and their names are alike in lower case with hyphens
read as underscores; an override is used by one application at most, and every
application that uses none has the table that it would have without overrides. -/
theorem resolve_separates (naming : TableNaming) :
    let spelled (app : String) := (Text.lower app).map fun c => if c = '-' then '_' else c
    (∀ (b₁ b₂ : Int64) (a₁ a₂ : String), a₁ ≠ "" → a₂ ≠ "" →
      (naming.plain.resolve b₁ a₁ = naming.plain.resolve b₂ a₂ ↔
        b₁ = b₂ ∧ spelled a₁ = spelled a₂)) ∧
    (∀ (entry : String × String) (b₁ b₂ : Int64) (a₁ a₂ : String),
      naming.Uses b₁ a₁ entry → naming.Uses b₂ a₂ entry → b₁ = b₂ ∧ a₁ = a₂) ∧
    ∀ (business : Int64) (app : String),
      (∃ entry, naming.Uses business app entry ∧ naming.resolve business app = .ok entry.2) ∨
        (¬ ∃ entry, naming.Uses business app entry) ∧
          naming.resolve business app = naming.plain.resolve business app := by
  intro spelled
  refine ⟨fun b₁ b₂ a₁ a₂ h₁ h₂ => ?_, fun entry b₁ b₂ a₁ a₂ h₁ h₂ => ?_, uses_or_plain naming⟩
  · rw [resolve_plain h₁, resolve_plain h₂, Except.ok.injEq]
    constructor
    · exact derive_inj
    · rintro ⟨rfl, hname⟩
      have hnormal : normalize a₁ = normalize a₂ := hname
      rw [derive, derive, hnormal]
  · exact overrideKey_inj (h₁.filed.symm.trans h₂.filed)

/-- The lowest owner there is, of whose applications two share a table and one does
not; two owners that differ by their sign, under a part that begins with the digit of
both; and an override for an application whose name reads like a key. -/
theorem resolve_separates_sign :
    let naming : TableNaming := ⟨"7_metric", .ofList [("-7/7/demo", "special")]⟩
    naming.plain.resolve Int64.minValue "Demo-App" =
      naming.plain.resolve Int64.minValue "demo_app" ∧
    naming.plain.resolve Int64.minValue "Demo-App" ≠
      naming.plain.resolve Int64.minValue "demo.app" ∧
    naming.plain.resolve (-7) "demo" ≠ naming.plain.resolve 7 "demo" ∧
    naming.Uses (-7) "7/demo" ("-7/7/demo", "special") ∧
    ∀ business app, naming.Uses business app ("-7/7/demo", "special") →
      business = -7 ∧ app = "7/demo" := by
  intro naming
  have huses : naming.Uses (-7) "7/demo" ("-7/7/demo", "special") :=
    ⟨by decide, List.mem_cons_self .., by decide +kernel⟩
  have hspelled (app : String) : ((Text.lower app).map fun c => if c = '-' then '_' else c).toList =
      (Text.lowerFrom [] app.toList).map fun c => if c = '-' then '_' else c :=
    toList_normalize app
  obtain ⟨hrule, hoverride, -⟩ := resolve_separates naming
  refine ⟨?_, ?_, ?_, huses, fun business app h => hoverride _ _ _ _ _ h huses⟩
  · refine (hrule Int64.minValue Int64.minValue "Demo-App" "demo_app" (by decide)
      (by decide)).2 ⟨rfl, ?_⟩
    rw [← String.toList_inj, hspelled, hspelled]
    decide +kernel
  · intro h
    have hname := ((hrule Int64.minValue Int64.minValue "Demo-App" "demo.app" (by decide)
      (by decide)).1 h).2
    rw [← String.toList_inj, hspelled, hspelled] at hname
    exact absurd hname (by decide +kernel)
  · intro h
    have howner := ((hrule (-7) 7 "demo" "demo" (by decide) (by decide)).1 h).1
    exact absurd howner (by decide)

end TableNaming
end RpcMetrics
