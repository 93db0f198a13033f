import RpcMetrics.Discovery.Fetch

/-!
# Schedules of probes

Which probe ends when is up to the store.  What is known is that probes are started in order, one
as soon as there is room for it, and that no more than a given number wait at once.  A schedule is
an order of endings that can come about in this way.

**Schedules lose nothing** (`Schedule.perm_range`): every probe ends, and ends once.  Beyond that
they may be in any order that the room allows; the order in which `fetch` takes the outcomes is
one of them (`schedule_range`).  From wherever probes are on their way, all can end
(`Flight.Sound.exists_reaches`).
-/
namespace RpcMetrics.Discovery

/-- How far the probes of a discovery have come, each known by its index. -/
structure Flight where
  /-- How many have been started. -/
  started : Nat
  /-- Those that wait for the store. -/
  waiting : List Nat
  /-- Those that have ended, in the order of their endings. -/
  ended : List Nat

namespace Flight

/-- Nothing has been started. -/
def start : Flight := ⟨0, [], []⟩

/-- **What may happen next** to so many probes, of which no more than `room` wait at once. -/
inductive Next (room count : Nat) : Flight → Flight → Prop
  /-- While there is room, the next probe is started. -/
  | starts {started : Nat} {waiting ended : List Nat} (left : started < count)
      (fits : waiting.length < room) :
      Next room count ⟨started, waiting, ended⟩ ⟨started + 1, waiting ++ [started], ended⟩
  /-- Otherwise one that waits ends, whichever it is. -/
  | ends {started : Nat} {waiting ended : List Nat} (index : Nat) (waits : index ∈ waiting)
      (full : started = count ∨ waiting.length = room) :
      Next room count ⟨started, waiting, ended⟩ ⟨started, waiting.erase index, ended ++ [index]⟩

/-- What may happen in the end. -/
inductive Reaches (room count : Nat) : Flight → Flight → Prop
  /-- Nothing happens. -/
  | refl (flight : Flight) : Reaches room count flight flight
  /-- One thing happens, and then others. -/
  | step {first second last : Flight} (next : Next room count first second)
      (rest : Reaches room count second last) : Reaches room count first last

/-- What happens in two parts. -/
theorem Reaches.append {room count : Nat} {first second last : Flight}
    (h : Reaches room count first second) (hrest : Reaches room count second last) :
    Reaches room count first last := by
  induction h with
  | refl => exact hrest
  | step hnext _ ih => exact .step hnext (ih hrest)

/-- Each probe that has been started waits or has ended, there are no others, and the room
suffices. -/
structure Sound (room count : Nat) (flight : Flight) : Prop where
  perm : (flight.ended ++ flight.waiting).Perm (List.range flight.started)
  started_le : flight.started ≤ count
  waiting_le : flight.waiting.length ≤ room

variable {room count : Nat} {first last : Flight}

theorem sound_start : Sound room count start := ⟨.refl _, Nat.zero_le _, Nat.zero_le _⟩

theorem Next.sound (hnext : Next room count first last) (hsound : Sound room count first) :
    Sound room count last := by
  obtain ⟨hperm, hstarted, hwaiting⟩ := hsound
  cases hnext with
  | starts hleft hfits =>
    refine ⟨?_, hleft, by simpa using Nat.succ_le_of_lt hfits⟩
    rw [List.range_succ, ← List.append_assoc]
    exact hperm.append_right _
  | ends index hwaits hfull =>
    refine ⟨?_, hstarted, ?_⟩
    · rw [List.append_assoc]
      exact ((List.perm_cons_erase hwaits).symm.append_left _).trans hperm
    · exact Nat.le_trans List.length_erase_le hwaiting

theorem Reaches.sound (h : Reaches room count first last) (hsound : Sound room count first) :
    Sound room count last := by
  induction h with
  | refl => exact hsound
  | step hnext _ ih => exact ih (hnext.sound hsound)

/-- Probes are started while there is room for them. -/
theorem reaches_starts {first started last : Nat} {ended : List Nat} (hfirst : first ≤ started)
    (hlast : started ≤ last) (hcount : last ≤ count) (hroom : last ≤ first + room) :
    Reaches room count ⟨started, List.range' first (started - first), ended⟩
      ⟨last, List.range' first (last - first), ended⟩ := by
  induction h : last - started generalizing started with
  | zero =>
    obtain rfl : started = last := by omega
    exact .refl _
  | succ n ih =>
    have hmore : List.range' first (started - first) ++ [started]
        = List.range' first (started + 1 - first) := by
      rw [Nat.succ_sub hfirst, List.range'_concat]
      simp only [Nat.one_mul, Nat.add_sub_cancel' hfirst]
    refine .step (.starts (by omega) (by rw [List.length_range']; omega)) ?_
    rw [hmore]
    exact ih (by omega) (by omega) (by omega)

/-- Probes that wait may end in the order in which they were started. -/
theorem reaches_ends (ended : Nat) (hroom : 0 < room) (hended : ended ≤ count) :
    Reaches room count
      ⟨min count (ended + room), List.range' ended (min count (ended + room) - ended),
        List.range ended⟩
      ⟨count, [], List.range count⟩ := by
  induction h : count - ended generalizing ended with
  | zero =>
    obtain rfl : ended = count := by omega
    simpa using Reaches.refl _
  | succ n ih =>
    obtain ⟨others, hothers⟩ : ∃ others, min count (ended + room) - ended = others + 1 :=
      ⟨min count (ended + room) - ended - 1, by omega⟩
    rw [hothers, List.range'_succ]
    refine .step (.ends ended (List.mem_cons_self ..) ?_) ?_
    · rw [List.length_cons, List.length_range']
      omega
    · rw [List.erase_cons_head, ← List.range_succ,
        show others = min count (ended + room) - (ended + 1) by omega]
      exact (reaches_starts (by omega) (by omega) (by omega) (by omega)).append
        (ih (ended + 1) (by omega) (by omega))

/-- Probes that are on their way can all end. -/
theorem Sound.exists_reaches {flight : Flight} (h : flight.Sound room count) (hroom : 0 < room) :
    ∃ ended, Reaches room count flight ⟨count, [], ended⟩ := by
  -- a start leaves one probe less to start, an ending one less to wait for
  induction hmeasure : 2 * (count - flight.started) + flight.waiting.length
    using Nat.strongRecOn generalizing flight with
  | _ n ih =>
    obtain ⟨started, waiting, ended⟩ := flight
    have hstarted : started ≤ count := h.started_le
    have hwaiting : waiting.length ≤ room := h.waiting_le
    dsimp only at hmeasure
    by_cases hstarts : started < count ∧ waiting.length < room
    · have hnext : Next room count ⟨started, waiting, ended⟩ _ := .starts hstarts.1 hstarts.2
      obtain ⟨last, hreaches⟩ := ih _ (by simp; omega) (hnext.sound h) rfl
      exact ⟨last, .step hnext hreaches⟩
    · cases waiting with
      | nil =>
        obtain rfl : started = count := by
          have hnone : ([] : List Nat).length = 0 := rfl
          omega
        exact ⟨ended, .refl _⟩
      | cons index waiting =>
        have hnext : Next room count ⟨started, index :: waiting, ended⟩ _ :=
          .ends index (List.mem_cons_self ..) (by omega)
        obtain ⟨last, hreaches⟩ := ih _ (by simp; simp at hmeasure; omega) (hnext.sound h) rfl
        exact ⟨last, .step hnext hreaches⟩

end Flight

/-- An order in which so many probes may end, of which no more than `room` wait at once. -/
def Schedule (room count : Nat) (ended : List Nat) : Prop :=
  Flight.Reaches room count .start ⟨count, [], ended⟩

variable {room count : Nat} {ended : List Nat}

/-- **Every probe ends, and ends once.** -/
theorem Schedule.perm_range (h : Schedule room count ended) : ended.Perm (List.range count) := by
  simpa using (Flight.Reaches.sound h Flight.sound_start).perm

/-- Probes may end in the order in which they are started. -/
theorem schedule_range (hroom : 0 < room) : Schedule room count (List.range count) := by
  refine Flight.Reaches.append ?_ (Flight.reaches_ends 0 hroom (Nat.zero_le count))
  exact Flight.reaches_starts (Nat.le_refl 0) (Nat.zero_le _) (Nat.min_le_left ..)
    (Nat.min_le_right ..)

end RpcMetrics.Discovery
