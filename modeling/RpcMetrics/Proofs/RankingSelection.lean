import RpcMetrics.Proofs.CalculationParts

/-! # A ranking is a selection

The query set of a ranking is put together by the calculation that it ranks,
which is handed the parameters of the ranking.  Two of these, what is ranked and
how much of it is kept, mean nothing to a calculation that ranks nothing: it
looks at the window alone.  So a ranking can be held against its inner
calculation under any other parameters with this window
(`querySet_eq_map_of_composes`), and **the two differ in one selection**
(`querySet_ranking`), down to the failure if there is one.
-/
namespace RpcMetrics
namespace Group
variable {group : Group} {now : Int64} {calculation inner : Calculation}
variable {params other : Params}

/-- **What is composed is the inner calculation under a selection**, whatever
else the inner calculation is told besides the window. -/
theorem querySet_eq_map_of_composes {transforms : List Transform}
    (h : Composes calculation params inner transforms)
    (hstart : other.start = params.start) (hstop : other.stop = params.stop) :
    group.querySet now calculation params =
      (group.querySet now inner other).map fun set => { set with transforms } := by
  have hother : Composes inner other inner [] := .itself h.inner_plain
  rw [group.querySet_of_composes now h, group.querySet_of_composes now hother, hstart, hstop]
  -- both sides are refused for the same window, and differ nowhere else
  cases QuerySetDraft.checkWindow (group.scope.window now params.start params.stop) with
  | ok _ => rfl
  | error fault => rfl

/-- A calculation that ranks nothing selects nothing. -/
theorem transforms_of_plain {set : QuerySet} (hplain : calculation.isRanking = false)
    (h : group.querySet now calculation params = .ok set) : set.transforms = [] := by
  rw [group.querySet_of_composes now (.itself hplain)] at h
  split at h
  · obtain rfl := Except.ok.inj h
    rfl
  · cases h

/-- **A ranking is the calculation it ranks, with one selection.**  The inner
calculation may be told anything about rankings; its window is what counts.  It
selects nothing by itself, and where it fails the ranking fails alike. -/
theorem querySet_ranking {limit : UInt64} (hplain : inner.isRanking = false)
    (hlimit : 1 ≤ limit) (hranked : params.ranked = some inner)
    (hkept : params.limit = some limit) (hstart : other.start = params.start)
    (hstop : other.stop = params.stop) :
    group.querySet now .topN params =
        (group.querySet now inner other).map (fun set => { set with transforms := [.top limit] }) ∧
      group.querySet now .bottomN params =
        (group.querySet now inner other).map
          (fun set => { set with transforms := [.bottom limit] }) ∧
      ∀ set, group.querySet now inner other = .ok set → set.transforms = [] := by
  have hpos : limit ≠ 0 := by
    rintro rfl
    exact absurd hlimit (by decide)
  have htop : Composes .topN params inner [.top limit] :=
    .ranked rfl hranked hplain hkept hpos
  have hbottom : Composes .bottomN params inner [.bottom limit] :=
    .ranked rfl hranked hplain hkept hpos
  exact ⟨querySet_eq_map_of_composes htop hstart hstop,
    querySet_eq_map_of_composes hbottom hstart hstop,
    fun set hset => transforms_of_plain hplain hset⟩

/-- The five busiest and the five idlest callees: the inner calculation is told
to rank rankings, which changes nothing.  A window that starts after the clock
refuses all three alike. -/
theorem querySet_ranking_busiest :
    let group : Group := ⟨⟨"calls", {}, {}⟩, { groupBy := ["callee_server"] }⟩
    let params (start : Option Int64) : Params :=
      { start, ranked := some .requestTotal, limit := some 5 }
    let other (start : Option Int64) : Params := { start, ranked := some .topN, limit := some 0 }
    (∃ set, group.querySet 1700000000 .requestTotal (other none) = .ok set ∧
      group.querySet 1700000000 .topN (params none) =
        .ok { set with transforms := [.top 5] } ∧
      group.querySet 1700000000 .bottomN (params none) =
        .ok { set with transforms := [.bottom 5] }) ∧
    ∃ failure, group.querySet 1700000000 .requestTotal (other (some 1800000000)) =
        .error failure ∧
      group.querySet 1700000000 .topN (params (some 1800000000)) = .error failure ∧
      group.querySet 1700000000 .bottomN (params (some 1800000000)) = .error failure := by
  intro group params other
  have hranking (start : Option Int64) := @querySet_ranking group 1700000000 .requestTotal
    (params start) (other start) 5 rfl (by decide) rfl rfl rfl rfl
  have hplain (start : Option Int64) := group.querySet_of_composes 1700000000
    (.itself rfl : Composes .requestTotal (other start) .requestTotal [])
  constructor
  · have hwindow : QuerySetDraft.checkWindow
        (group.scope.window 1700000000 (other none).start (other none).stop) = .ok () := by
      cbv
    have hset := hplain none
    rw [hwindow] at hset
    obtain ⟨htop, hbottom, -⟩ := hranking none
    rw [hset] at htop hbottom
    exact ⟨_, hset, htop, hbottom⟩
  · have hwindow : QuerySetDraft.checkWindow
        (group.scope.window 1700000000 (other (some 1800000000)).start
          (other (some 1800000000)).stop) =
        .error (.invertedWindow 1800000000000 1700000000000) := by
      cbv
    have hset := hplain (some 1800000000)
    rw [hwindow] at hset
    obtain ⟨htop, hbottom, -⟩ := hranking (some 1800000000)
    rw [hset] at htop hbottom
    exact ⟨_, hset, htop, hbottom⟩

end Group
end RpcMetrics
