import Mathlib
import RpcMetrics.Json.Parser
import RpcMetrics.Proofs.FiniteDoubles

/-! # Numbers in values that are read

Every scalar of a row of tokens is what a numeral is read as, so its double is a
number.  Reading keeps this of all that the open containers hold
(`Progress.AllFinite.step`), and so of the value in the end (`allFinite_of_parse`).
-/
namespace RpcMetrics
namespace Json
open Decimal

/-- Whether every double within a value is a number. -/
inductive AllFinite : Json → Prop
  | null : AllFinite .null
  | bool (b : Bool) : AllFinite (.bool b)
  | integer (n : Int) : AllFinite (.integer n)
  | float {x : Float} (finite : isFinite x = true) : AllFinite (.float x)
  | string (text : String) : AllFinite (.string text)
  | array {items : List Json} (within : ∀ item ∈ items, AllFinite item) : AllFinite (.array items)
  | object {members : List (String × Json)} (within : ∀ member ∈ members, AllFinite member.2) :
      AllFinite (.object members)
  | unreadable : AllFinite .unreadable

theorem allFinite_value (n : Numeral) : AllFinite n.value := by
  unfold Numeral.value
  extract_lets double magnitude
  have hdouble : AllFinite double := by
    unfold double
    cases h : n.toFloat with
    | none => exact .unreadable
    | some x => exact .float (isFinite_of_toFloat h)
  split
  · exact hdouble
  · split
    · split
      · exact hdouble
      · exact .integer _
    · split
      · exact hdouble
      · exact .integer _

/-- Whether the value of a token, if it has one, has numbers only. -/
def Token.AllFinite : Token → Prop
  | scalar value => Json.AllFinite value
  | _ => True

theorem Token.allFinite_of_next {text rest : List Char} {token : Token}
    (h : next text = some (token, rest)) : token.AllFinite := by
  unfold next at h
  split at h
  case h_7 =>
    obtain ⟨read, -, hread⟩ := Option.map_eq_some_iff.1 h
    cases hread
    trivial
  case h_8 => cases h; exact .null
  case h_9 => cases h; exact .bool true
  case h_10 => cases h; exact .bool false
  case h_11 =>
    obtain ⟨read, -, hread⟩ := Option.map_eq_some_iff.1 h
    cases hread
    exact allFinite_value _
  all_goals cases h; trivial

theorem Token.allFinite_of_lexUpTo {fuel : Nat} {text : List Char} {tokens : List Token}
    (h : lexUpTo fuel text = some tokens) : ∀ token ∈ tokens, token.AllFinite := by
  induction fuel generalizing text tokens with
  | zero =>
    rw [lexUpTo] at h
    split at h
    · cases h; exact List.forall_mem_nil _
    · cases h
  | succ fuel ih =>
    rw [lexUpTo] at h
    split at h
    · cases h; exact List.forall_mem_nil _
    · obtain ⟨⟨token, rest⟩, hnext, h⟩ := Option.bind_eq_some_iff.1 h
      obtain ⟨others, hothers, h⟩ := Option.bind_eq_some_iff.1 h
      cases h
      exact List.forall_mem_cons.2 ⟨allFinite_of_next hnext, ih hothers⟩

/-- Whether what an open container holds so far has numbers only. -/
def Frame.AllFinite : Frame → Prop
  | .array items => ∀ item ∈ items, Json.AllFinite item
  | .object members _ _ => ∀ member ∈ members, Json.AllFinite member.2

namespace Progress

/-- **Whether all that has been read has numbers only.** -/
structure AllFinite (p : Progress) : Prop where
  /-- What open containers hold. -/
  frames : ∀ frame ∈ p.frames, frame.AllFinite
  /-- The value, once it is there. -/
  finished : ∀ value, p.phase = .finished value → Json.AllFinite value

section Steps
variable {frames outer : List Frame} {p q : Progress} {value : Json} {token : Token}

theorem allFinite_push (hframes : ∀ frame ∈ frames, frame.AllFinite)
    (hvalue : Json.AllFinite value) :
    (push frames value).AllFinite := by
  cases frames with
  | nil => exact ⟨List.forall_mem_nil _, by rintro _ ⟨⟩; exact hvalue⟩
  | cons frame outer =>
    obtain ⟨hframe, houter⟩ := List.forall_mem_cons.1 hframes
    cases frame with
    | array items =>
      exact ⟨List.forall_mem_cons.2 ⟨List.forall_mem_cons.2 ⟨hvalue, hframe⟩, houter⟩, nofun⟩
    | object members name readable =>
      exact ⟨List.forall_mem_cons.2 ⟨List.forall_mem_cons.2 ⟨hvalue, hframe⟩, houter⟩, nofun⟩

theorem allFinite_pushContainer (houter : ∀ frame ∈ outer, frame.AllFinite)
    (hvalue : Json.AllFinite value) : (pushContainer outer value).AllFinite := by
  refine allFinite_push houter ?_
  split
  · exact hvalue
  · exact .unreadable

theorem allFinite_pushName {name : Option String} (hframes : ∀ frame ∈ frames, frame.AllFinite)
    (h : pushName frames name = some q) : q.AllFinite := by
  unfold pushName at h
  split at h
  · cases h
    obtain ⟨hframe, houter⟩ := List.forall_mem_cons.1 hframes
    exact ⟨List.forall_mem_cons.2 ⟨hframe, houter⟩, nofun⟩
  · cases h
    obtain ⟨hframe, houter⟩ := List.forall_mem_cons.1 hframes
    exact ⟨List.forall_mem_cons.2 ⟨hframe, houter⟩, nofun⟩
  · cases h

theorem allFinite_closeArray (hframes : ∀ frame ∈ frames, frame.AllFinite)
    (h : closeArray frames = some q) : q.AllFinite := by
  unfold closeArray at h
  split at h
  · cases h
    obtain ⟨hframe, houter⟩ := List.forall_mem_cons.1 hframes
    exact allFinite_pushContainer houter
      (.array fun item hitem => hframe item (List.mem_reverse.1 hitem))
  · cases h

theorem allFinite_closeObject (hframes : ∀ frame ∈ frames, frame.AllFinite)
    (h : closeObject frames = some q) : q.AllFinite := by
  unfold closeObject at h
  split at h
  · cases h
    obtain ⟨hframe, houter⟩ := List.forall_mem_cons.1 hframes
    refine allFinite_pushContainer houter ?_
    split
    · exact .object fun member hmember => hframe member (List.mem_reverse.1 hmember)
    · exact .unreadable
  · cases h

theorem allFinite_begin (hframes : ∀ frame ∈ frames, frame.AllFinite) (htoken : token.AllFinite)
    (h : begin frames token = some q) : q.AllFinite := by
  unfold begin at h
  split at h
  · cases h; exact ⟨List.forall_mem_cons.2 ⟨List.forall_mem_nil _, hframes⟩, nofun⟩
  · cases h; exact ⟨List.forall_mem_cons.2 ⟨List.forall_mem_nil _, hframes⟩, nofun⟩
  · cases h; exact allFinite_push hframes (.string _)
  · cases h; exact allFinite_push hframes .unreadable
  · cases h; exact allFinite_push hframes htoken
  · cases h

/-- **A token keeps what has been read to numbers.** -/
theorem AllFinite.step (hp : p.AllFinite) (htoken : token.AllFinite) (h : p.step token = some q) :
    q.AllFinite := by
  unfold Progress.step at h
  split at h
  · exact allFinite_begin hp.frames htoken h
  · exact allFinite_closeArray hp.frames h
  · exact allFinite_begin hp.frames htoken h
  · exact allFinite_closeObject hp.frames h
  · exact allFinite_pushName hp.frames h
  · exact allFinite_pushName hp.frames h
  · cases h; exact ⟨hp.frames, nofun⟩
  · split at h
    · cases h; exact ⟨hp.frames, nofun⟩
    · cases h; exact ⟨hp.frames, nofun⟩
    · cases h
  · exact allFinite_closeArray hp.frames h
  · exact allFinite_closeObject hp.frames h
  · cases h

theorem AllFinite.run {tokens : List Token} (hp : p.AllFinite)
    (htokens : ∀ token ∈ tokens, token.AllFinite) (h : p.run tokens = some q) : q.AllFinite := by
  induction tokens generalizing p with
  | nil => cases h; exact hp
  | cons token tokens ih =>
    obtain ⟨htoken, htokens⟩ := List.forall_mem_cons.1 htokens
    obtain ⟨next, hstep, hrest⟩ := Option.bind_eq_some_iff.1 h
    exact ih (hp.step htoken hstep) htokens hrest

end Steps
end Progress

/-- **All doubles of a value that is read are numbers.** -/
theorem allFinite_of_parse {text : String} {value : Json} (h : parse text = some value) :
    AllFinite value := by
  obtain ⟨tokens, hlex, h⟩ := Option.bind_eq_some_iff.1 h
  obtain ⟨p, hrun, h⟩ := Option.bind_eq_some_iff.1 h
  have hstart : Progress.start.AllFinite := ⟨List.forall_mem_nil _, nofun⟩
  have hp : p.AllFinite := hstart.run (Token.allFinite_of_lexUpTo hlex) hrun
  split at h
  · next hphase => cases h; exact hp.finished _ hphase
  · cases h

end Json
end RpcMetrics
