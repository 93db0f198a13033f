import RpcMetrics.Discovery.Probe
import RpcMetrics.Http.Exchange
import RpcMetrics.Params
import RpcMetrics.Proofs.DraftChecks
import RpcMetrics.Proofs.JsonNumbers
import RpcMetrics.Proofs.JsonText

/-! # Queries and their texts

A value is written as the text of its JSON form, and read from any text whose value
can be decoded: fields in any order and among others, some of them missing, or
records as arrays.  What is written is read back (`Codec.RoundTrips`); so of all
texts of a value the written one is a normal form (`Codec.Idempotent`).

This comes down to three things for each type (`Codec.Faithful`): its form can be
written, it is decoded to what it was made from, and nothing but numbers is decoded
where doubles stand.  The first two hold of a record if they hold of its fields, and
the third of a list if it holds of the items.

**Texts determine query sets, and reading them again changes nothing**
(`QuerySet.texts_exact`).
-/
namespace RpcMetrics
namespace Json

/-! ### Codecs -/

/-- A JSON form: how values are put into it and decoded, and what doubles they hold. -/
structure Codec (α : Type) where
  encode : α → Json
  decode : Json → Option α
  doubles : α → List Float

namespace Codec
variable {α : Type} (c : Codec α)

def write (value : α) : String := (c.encode value).write

/-- The value of a text. -/
def read? (text : String) : Option α := (parse text).bind c.decode

/-- The doubles of a value are numbers. -/
def Finite (value : α) : Prop := ∀ x ∈ c.doubles value, Decimal.isFinite x = true

/-- Numbers among the doubles of a value are read back. -/
def Kept (value : α) : Prop := ∀ x ∈ c.doubles value, Decimal.isFinite x = true → ReadsBack x

/-- **What is written is read back.** -/
def RoundTrips : Prop :=
  ∀ value, c.Finite value → c.Kept value → c.read? (c.write value) = some value

/-- **What is read is written as a text of the same value.** -/
def Idempotent : Prop :=
  ∀ text value, c.read? text = some value → c.Kept value → c.read? (c.write value) = some value

/-- What it takes for values that fit to be read back. -/
structure Faithful (Fits : α → Prop) : Prop where
  writable : ∀ {value}, c.Kept value → WritableIn 6 (c.encode value)
  /-- The form of a value that fits is decoded to it. -/
  decoded : ∀ {value}, Fits value → c.decode (c.encode value) = some value
  fits : ∀ {json value}, AllFinite json → c.decode json = some value → Fits value

variable {c}

theorem Faithful.read?_write {Fits : α → Prop} (h : c.Faithful Fits) {value : α}
    (hfits : Fits value) (hkept : c.Kept value) : c.read? (c.write value) = some value := by
  rw [read?, write, parse_write (h.writable hkept) (by decide), Option.bind_some, h.decoded hfits]

theorem Faithful.roundTrips (h : c.Faithful c.Finite) : c.RoundTrips :=
  fun _ hfinite hkept => h.read?_write hfinite hkept

theorem Faithful.idempotent {Fits : α → Prop} (h : c.Faithful Fits) : c.Idempotent := by
  intro text value hread hkept
  obtain ⟨json, hparse, hdecode⟩ := Option.bind_eq_some_iff.1 hread
  exact h.read?_write (h.fits (allFinite_of_parse hparse) hdecode) hkept

end Codec

/-! ### Scalars and lists -/

section Parts
variable {α : Type} {n : Nat}

theorem writableIn_ofUInt64 (k : UInt64) : WritableIn n (ofUInt64 k) := by
  have hk := k.toNat_lt
  exact .scalar ⟨by unfold Decimal.minSigned; omega, by unfold Decimal.maxUnsigned; omega⟩

theorem writableIn_ofInt64 (k : Int64) : WritableIn n (ofInt64 k) := by
  have hlow := k.le_toInt
  have hhigh := k.toInt_lt
  exact .scalar ⟨by unfold Decimal.minSigned; omega, by unfold Decimal.maxUnsigned; omega⟩

theorem writableIn_ofFloat {x : Float} (h : Decimal.isFinite x = true → ReadsBack x) :
    WritableIn n (ofFloat x) := by
  unfold ofFloat
  split
  · next hfinite => exact .scalar (h hfinite)
  · exact .scalar trivial

theorem writableIn_ofOption {encode : α → Json} (h : ∀ value, WritableIn n (encode value))
    (value : Option α) : WritableIn n (ofOption encode value) := by
  cases value with
  | none => exact .scalar trivial
  | some value => exact h value

theorem writableIn_map {encode : α → Json} {values : List α}
    (h : ∀ value ∈ values, WritableIn n (encode value)) :
    WritableIn (n + 1) (.array (values.map encode)) :=
  .array (List.forall_mem_map.2 h)

theorem writableIn_ofTexts (texts : List String) : WritableIn (n + 1) (ofTexts texts) :=
  writableIn_map fun text _ => .string text

theorem toOption?_ofOption {encode : α → Json} {decode : Json → Option α}
    (h : ∀ value, decode (encode value) = some value) (hnull : ∀ value, encode value ≠ .null)
    (value : Option α) : toOption? decode (ofOption encode value) = some value := by
  cases value with
  | none => rfl
  | some value =>
    rw [ofOption]
    unfold toOption?
    split
    · next heq => exact absurd heq (hnull value)
    · rw [h]; rfl

/-- A list is decoded iff each item is. -/
theorem mapM_eq_some_iff {β : Type} {decode : α → Option β} {items : List α} {values : List β} :
    items.mapM decode = some values ↔
      List.Forall₂ (fun item value => decode item = some value) items values := by
  induction items generalizing values with
  | nil =>
    rw [List.mapM_nil, List.forall₂_nil_left_iff]
    exact ⟨fun h => (Option.some.inj h).symm, fun h => h ▸ rfl⟩
  | cons item items ih =>
    simp only [List.mapM_cons, Option.bind_eq_bind, Option.bind_eq_some_iff,
      List.forall₂_cons_left_iff]
    constructor
    · rintro ⟨value, hvalue, values, hvalues, h⟩
      exact ⟨value, values, hvalue, ih.1 hvalues, (Option.some.inj h).symm⟩
    · rintro ⟨value, values, hvalue, hvalues, rfl⟩
      exact ⟨value, hvalue, values, ih.2 hvalues, rfl⟩

theorem toList?_map {encode : α → Json} {decode : Json → Option α} {values : List α}
    (h : ∀ value ∈ values, decode (encode value) = some value) :
    toList? decode (.array (values.map encode)) = some values :=
  mapM_eq_some_iff.2 (List.forall₂_map_left_iff.2 (List.forall₂_same.2 h))

/-- **A list has numbers only** if its items do. -/
theorem finite_of_toList? {decode : Json → Option α} {doubles : α → List Float}
    (hitem : ∀ {item value}, AllFinite item → decode item = some value →
      ∀ x ∈ doubles value, Decimal.isFinite x = true)
    {json : Json} {values : List α} (hjson : AllFinite json)
    (h : toList? decode json = some values) :
    ∀ x ∈ values.flatMap doubles, Decimal.isFinite x = true := by
  cases hjson with
  | array hitems =>
    intro x hx
    obtain ⟨value, hvalue, hx⟩ := List.mem_flatMap.1 hx
    obtain ⟨item, hmem, hread⟩ := exists_of_forall₂ (mapM_eq_some_iff.1 h) value hvalue
    exact hitem (hitems item hmem) hread x hx
  | _ => cases h

theorem isFinite_of_toFloat? {json : Json} {x : Float} (hjson : AllFinite json)
    (h : toFloat? json = some x) : Decimal.isFinite x = true := by
  cases hjson with
  | float hfinite => cases h; exact hfinite
  | integer k =>
    obtain rfl := Option.some.inj h
    split
    · exact Decimal.isFinite_neg (Decimal.isFinite_toFloat _)
    · exact Decimal.isFinite_toFloat _
  | _ => cases h

end Parts

/-! ### Records -/

theorem toRecord?_object {names : List String} {members : List (String × Json)} {spare : Bool}
    (hnames : members.map Prod.fst = names) (hdistinct : Record.distinct names = true) :
    toRecord? names spare (.object members) = some ⟨members, false⟩ := by
  have hall : members.filter (fun member => names.contains member.1) = members := by
    refine List.filter_eq_self.2 fun member hmember => ?_
    rw [List.contains_iff_mem, ← hnames]
    exact List.mem_map_of_mem hmember
  rw [toRecord?, Record.ofMembers?]
  simp only [hall, hnames, hdistinct, if_true]

section Named
variable {name : String} {value : Json} {before after : List (String × Json)}

/-- The only member with a name stands among others with other names. -/
theorem exists_of_filter_named {member : String × Json} {members : List (String × Json)}
    (h : members.filter (fun other => other.1 == name) = [member]) :
    member.1 = name ∧ ∃ before after, members = before ++ member :: after ∧
      ∀ other ∈ before ++ after, other.1 ≠ name := by
  obtain ⟨before, after, rfl, hbefore, hmember, hafter⟩ := List.filter_eq_cons_iff.1 h
  rw [List.filter_eq_nil_iff] at hafter
  refine ⟨by simpa using hmember, before, after, rfl, List.forall_mem_append.2 ⟨?_, ?_⟩⟩
  · simpa using hbefore
  · simpa using hafter

variable (hothers : ∀ other ∈ before ++ after, other.1 ≠ name)
include hothers

/-- A member with a name of its own is the only one of that name. -/
theorem filter_named :
    (before ++ (name, value) :: after).filter (fun other => other.1 == name) =
      [(name, value)] := by
  obtain ⟨hbefore, hafter⟩ := List.forall_mem_append.1 hothers
  rw [List.filter_append, List.filter_cons_of_pos (by simp),
    List.filter_eq_nil_iff.2 (by simpa using hbefore),
    List.filter_eq_nil_iff.2 (by simpa using hafter), List.nil_append]

/-- The others are those before and after it. -/
theorem filter_unnamed :
    (before ++ (name, value) :: after).filter (fun other => other.1 != name) =
      before ++ after := by
  obtain ⟨hbefore, hafter⟩ := List.forall_mem_append.1 hothers
  rw [List.filter_append, List.filter_cons_of_neg (by simp),
    List.filter_eq_self.2 (by simpa using hbefore), List.filter_eq_self.2 (by simpa using hafter)]

end Named

/-- The fields of a record come from its members or items. -/
theorem allFinite_of_toRecord? {names : List String} {spare : Bool} {json : Json} {record : Record}
    (hjson : AllFinite json) (h : toRecord? names spare json = some record) :
    ∀ field ∈ record.fields, AllFinite field.2 := by
  cases hjson with
  | object hmembers =>
    rw [toRecord?, Record.ofMembers?] at h
    split at h
    · cases h
      exact fun field hfield => hmembers field (List.mem_of_mem_filter hfield)
    · cases h
  | array hitems =>
    rw [toRecord?] at h
    split at h
    · cases h
    · cases h
      exact fun field hfield => hitems field.2 (List.of_mem_zip hfield).2
  | _ => cases h

theorem exists_of_required {α : Type} {record : Record} {name : String} {decode : Json → Option α}
    {value : α} (hrecord : ∀ field ∈ record.fields, AllFinite field.2)
    (h : record.required name decode = some value) :
    ∃ json, AllFinite json ∧ decode json = some value := by
  obtain ⟨json, hlookup, hdecode⟩ := Option.bind_eq_some_iff.1 h
  obtain ⟨before, after, hfields, -⟩ := List.lookup_eq_some_iff.1 hlookup
  exact ⟨json, hrecord (name, json) (by rw [hfields]; simp), hdecode⟩

end Json

open Json

/-! ### Types without doubles -/

section Plain
variable {n : Nat}

/-- Nothing has to be seen to where there are no doubles. -/
theorem Json.Codec.faithful_of_plain {α : Type} {c : Codec α}
    (hplain : ∀ value, c.doubles value = [])
    (hwritable : ∀ value, WritableIn 6 (c.encode value))
    (hdecoded : ∀ value, c.decode (c.encode value) = some value) : c.Faithful c.Finite where
  writable _ := hwritable _
  decoded _ := hdecoded _
  fits _ _ := by
    intro x hx
    rw [hplain] at hx
    cases hx

namespace Window

theorem writableIn_toJson (window : Window) : WritableIn (n + 1) window.toJson := by
  refine .object ?_
  simp only [List.forall_mem_cons]
  exact ⟨writableIn_ofInt64 _, writableIn_ofInt64 _, List.forall_mem_nil _⟩

theorem ofJson?_toJson (window : Window) : ofJson? window.toJson = some window := by
  have hrecord : window.toJson.toRecord? fields false = some ⟨_, false⟩ :=
    toRecord?_object rfl rfl
  rw [ofJson?, hrecord]
  simp [Record.required, Record.get?, List.lookup_cons, toInt64?_ofInt64]

def codec : Codec Window := ⟨toJson, ofJson?, fun _ => []⟩

theorem codec_faithful : codec.Faithful codec.Finite :=
  Codec.faithful_of_plain (fun _ => rfl) writableIn_toJson ofJson?_toJson

end Window

namespace Condition

theorem writableIn_toJson (condition : Condition) : WritableIn (n + 2) condition.toJson := by
  refine .object ?_
  simp only [List.forall_mem_cons]
  exact ⟨.string _, .string _, writableIn_ofTexts _, List.forall_mem_nil _⟩

theorem ofJson?_toJson (condition : Condition) : ofJson? condition.toJson = some condition := by
  have hrecord : condition.toJson.toRecord? fields false = some ⟨_, false⟩ :=
    toRecord?_object rfl rfl
  rw [ofJson?, hrecord]
  simp [Record.required, Record.get?, List.lookup_cons, toText?, toNamed?, toTexts?_ofTexts,
    Comparison.ofName?_name]

def codec : Codec Condition := ⟨toJson, ofJson?, fun _ => []⟩

theorem codec_faithful : codec.Faithful codec.Finite :=
  Codec.faithful_of_plain (fun _ => rfl) writableIn_toJson ofJson?_toJson

end Condition

namespace Filter

theorem writableIn_toJson (filter : Filter) : WritableIn (n + 3) filter.toJson :=
  writableIn_map fun condition _ => condition.writableIn_toJson

theorem ofJson?_toJson (filter : Filter) : ofJson? filter.toJson = some filter := by
  rw [ofJson?, toJson, toList?_map fun condition _ => condition.ofJson?_toJson]
  rfl

def codec : Codec Filter := ⟨toJson, ofJson?, fun _ => []⟩

theorem codec_faithful : codec.Faithful codec.Finite :=
  Codec.faithful_of_plain (fun _ => rfl) writableIn_toJson ofJson?_toJson

end Filter

namespace Params

theorem writableIn_toJson (params : Params) : WritableIn (n + 1) params.toJson := by
  refine .object ?_
  simp only [List.forall_mem_cons]
  exact ⟨writableIn_ofOption writableIn_ofInt64 _, writableIn_ofOption writableIn_ofInt64 _,
    writableIn_ofOption (fun _ => .string _) _, writableIn_ofOption writableIn_ofUInt64 _,
    List.forall_mem_nil _⟩

theorem ofJson?_toJson (params : Params) : ofJson? params.toJson = some params := by
  have hrecord : params.toJson.toRecord? fields false = some ⟨_, false⟩ :=
    toRecord?_object rfl rfl
  have hbound (bound : Option Int64) : toOption? toInt64? (ofOption ofInt64 bound) = some bound :=
    toOption?_ofOption toInt64?_ofInt64 nofun bound
  have hlimit (limit : Option UInt64) :
      toOption? toUInt64? (ofOption ofUInt64 limit) = some limit :=
    toOption?_ofOption toUInt64?_ofUInt64 nofun limit
  have hranked (ranked : Option Calculation) : toOption? (toNamed? Calculation.ofName?)
      (ofOption (fun c => .string c.name) ranked) = some ranked :=
    toOption?_ofOption Calculation.ofName?_name nofun ranked
  rw [ofJson?, hrecord]
  simp [Record.defaulted, Record.get?, List.lookup_cons, hbound, hlimit, hranked]

def codec : Codec Params := ⟨toJson, ofJson?, fun _ => []⟩

theorem codec_faithful : codec.Faithful codec.Finite :=
  Codec.faithful_of_plain (fun _ => rfl) writableIn_toJson ofJson?_toJson

end Params

namespace Probe

theorem writableIn_toJson (probe : Probe) : WritableIn (n + 4) probe.toJson := by
  refine .object ?_
  simp only [List.forall_mem_cons]
  exact ⟨.string _, .string _, probe.filter.writableIn_toJson, List.forall_mem_nil _⟩

theorem ofJson?_toJson (probe : Probe) : ofJson? probe.toJson = some probe := by
  have hrecord : probe.toJson.toRecord? fields false = some ⟨_, false⟩ :=
    toRecord?_object rfl rfl
  rw [ofJson?, hrecord]
  simp [Record.required, Record.defaulted, Record.get?, List.lookup_cons, toText?,
    Filter.ofJson?_toJson]

def codec : Codec Probe := ⟨toJson, ofJson?, fun _ => []⟩

theorem codec_faithful : codec.Faithful codec.Finite :=
  Codec.faithful_of_plain (fun _ => rfl) writableIn_toJson ofJson?_toJson

end Probe

namespace ServerProfile

theorem writableIn_toJson (profile : ServerProfile) : WritableIn (n + 1) profile.toJson := by
  refine .object ?_
  simp only [List.forall_mem_cons]
  exact ⟨.string _, List.forall_mem_nil _⟩

theorem ofJson?_toJson (profile : ServerProfile) : ofJson? profile.toJson = some profile := by
  obtain ⟨temporality⟩ := profile
  cases temporality <;> rfl

def codec : Codec ServerProfile := ⟨toJson, ofJson?, fun _ => []⟩

theorem codec_faithful : codec.Faithful codec.Finite :=
  Codec.faithful_of_plain (fun _ => rfl) writableIn_toJson ofJson?_toJson

end ServerProfile
end Plain

/-! ### Types with doubles -/

namespace Transform

/-- The doubles of a transform. -/
def doubles : Transform → List Float
  | quantile scalar => [scalar]
  | _ => []

def codec : Codec Transform := ⟨toJson, ofJson?, doubles⟩

variable {n : Nat} {transform : Transform}

theorem writableIn_toJson (h : codec.Kept transform) : WritableIn (n + 1) transform.toJson := by
  refine .object (List.forall_mem_cons.2 ⟨.string _, ?_⟩)
  cases transform with
  | increase window =>
    exact List.forall_mem_cons.2 ⟨writableIn_ofUInt64 _, List.forall_mem_nil _⟩
  | quantile scalar =>
    have hscalar : Decimal.isFinite scalar = true → ReadsBack scalar :=
      h scalar (List.mem_cons_self ..)
    exact List.forall_mem_cons.2 ⟨writableIn_ofFloat hscalar, List.forall_mem_nil _⟩
  | top limit | bottom limit =>
    exact List.forall_mem_cons.2 ⟨writableIn_ofUInt64 _, List.forall_mem_nil _⟩

/-- A transform is read by its name and its parameter. -/
theorem ofJson?_object {id name : String} {parameter : Json} (hid : ids.contains id = true)
    (hname : name ≠ "id") (hreadable : parameter.isReadable = true) :
    ofJson? (.object [("id", .string id), (name, parameter)]) =
      ofParameter? id (single? [(name, parameter)]) := by
  have hsingle : single? [("id", .string id), (name, parameter)] "id" = some (.string id) := by
    simp [single?, hname]
  have hothers : [("id", Json.string id), (name, parameter)].filter
      (fun member => member.1 != "id") = [(name, parameter)] := by
    simp [hname]
  have htoId : toId? (.string id) = some id := by
    simp only [toId?, toText?, Option.filter, hid, if_true]
  simp [ofJson?, hsingle, hothers, htoId, membersReadable, hreadable]

theorem ofJson?_toJson (h : codec.Finite transform) :
    ofJson? transform.toJson = some transform := by
  cases transform with
  | increase window =>
    refine (@ofJson?_object "increase" "window_secs" _ (by decide) (by decide) rfl).trans ?_
    simp [ofParameter?, single?, toUInt64?_ofUInt64]
  | quantile scalar =>
    have hscalar : ofFloat scalar = .float scalar := if_pos (h scalar (List.mem_cons_self ..))
    have hreadable : (ofFloat scalar).isReadable = true := by rw [hscalar]; rfl
    refine (@ofJson?_object "histogram_quantile" "scalar" _ (by decide) (by decide)
      hreadable).trans ?_
    simp [ofParameter?, single?, hscalar, toFloat?]
  | top limit =>
    refine (@ofJson?_object "topk" "limit" _ (by decide) (by decide) rfl).trans ?_
    simp [ofParameter?, single?, toUInt64?_ofUInt64]
  | bottom limit =>
    refine (@ofJson?_object "bottomk" "limit" _ (by decide) (by decide) rfl).trans ?_
    simp [ofParameter?, single?, toUInt64?_ofUInt64]

theorem finite_of_ofParameter? {id : String} {parameter : String → Option Json}
    (hparameter : ∀ name json, parameter name = some json → AllFinite json)
    (h : ofParameter? id parameter = some transform) : codec.Finite transform := by
  unfold ofParameter? at h
  split at h
  case h_2 =>
    obtain ⟨json, hjson, h⟩ := Option.bind_eq_some_iff.1 h
    obtain ⟨scalar, hscalar, h⟩ := Option.bind_eq_some_iff.1 h
    cases h
    intro x hx
    obtain rfl := List.mem_singleton.1 hx
    exact isFinite_of_toFloat? (hparameter _ _ hjson) hscalar
  case h_5 => cases h
  all_goals
    obtain ⟨json, -, h⟩ := Option.bind_eq_some_iff.1 h
    obtain ⟨count, -, h⟩ := Option.bind_eq_some_iff.1 h
    cases h
    exact List.forall_mem_nil _

theorem allFinite_of_single? {members : List (String × Json)} {name : String} {json : Json}
    (hmembers : ∀ member ∈ members, AllFinite member.2) (h : single? members name = some json) :
    AllFinite json := by
  unfold single? at h
  split at h
  · next heq =>
    cases h
    exact hmembers _ (List.mem_of_mem_filter (heq ▸ List.mem_cons_self ..))
  · cases h

theorem finite_of_ofJson? {json : Json} (hjson : AllFinite json)
    (h : ofJson? json = some transform) : codec.Finite transform := by
  unfold ofJson? at h
  split at h
  · next members =>
    cases hjson with
    | object hmembers =>
    obtain ⟨value, -, h⟩ := Option.bind_eq_some_iff.1 h
    obtain ⟨id, -, h⟩ := Option.bind_eq_some_iff.1 h
    dsimp only at h
    split at h
    · refine finite_of_ofParameter? (fun name json hsingle => ?_) h
      exact allFinite_of_single?
        (fun member hmember => hmembers member (List.mem_of_mem_filter hmember)) hsingle
    · cases h
  · next id parameter =>
    cases hjson with
    | array hitems =>
    obtain ⟨id, -, h⟩ := Option.bind_eq_some_iff.1 h
    refine finite_of_ofParameter? (fun name json hparameter => ?_) h
    cases hparameter
    exact hitems _ (by simp)
  · cases h

theorem codec_faithful : codec.Faithful codec.Finite :=
  ⟨writableIn_toJson, ofJson?_toJson, finite_of_ofJson?⟩

end Transform

namespace Query

/-- The doubles of a sub-query. -/
def doubles (query : Query) : List Float := query.transforms.flatMap Transform.doubles

def codec : Codec Query := ⟨toJson, ofJson?, doubles⟩

variable {n : Nat} {query : Query}

theorem writableIn_toJson (h : codec.Kept query) : WritableIn (n + 4) query.toJson := by
  have htransforms : ∀ transform ∈ query.transforms, WritableIn (n + 2) transform.toJson :=
    fun transform hmem => Transform.writableIn_toJson fun x hx =>
      h x (List.mem_flatMap.2 ⟨transform, hmem, hx⟩)
  refine .object ?_
  simp only [List.forall_mem_cons]
  exact ⟨.string _, .string _, .string _, .string _, writableIn_ofUInt64 _, writableIn_ofTexts _,
    query.filter.writableIn_toJson, writableIn_map htransforms, List.forall_mem_nil _⟩

theorem ofJson?_toJson (h : codec.Finite query) : ofJson? query.toJson = some query := by
  have hrecord : query.toJson.toRecord? fields false = some ⟨_, false⟩ :=
    toRecord?_object rfl rfl
  have htransforms : toList? Transform.ofJson? (.array (query.transforms.map Transform.toJson)) =
      some query.transforms :=
    toList?_map fun transform hmem => Transform.ofJson?_toJson fun x hx =>
      h x (List.mem_flatMap.2 ⟨transform, hmem, hx⟩)
  rw [ofJson?, hrecord]
  simp [Record.required, Record.get?, List.lookup_cons, toText?, toNamed?, toTexts?_ofTexts,
    Aggregation.ofName?_name, toUInt64?_ofUInt64, Filter.ofJson?_toJson, htransforms]

theorem finite_of_ofJson? {json : Json} (hjson : AllFinite json)
    (h : ofJson? json = some query) : codec.Finite query := by
  simp only [ofJson?, Option.bind_eq_bind, Option.bind_eq_some_iff] at h
  obtain ⟨record, hrecord, table, -, label, -, metric, -, method, -, interval, -, groupBy, -,
    filter, -, transforms, htransforms, hquery⟩ := h
  cases hquery
  have hfields := allFinite_of_toRecord? hjson hrecord
  obtain ⟨json, hjson, hlist⟩ := exists_of_required hfields htransforms
  exact finite_of_toList? Transform.finite_of_ofJson? hjson hlist

theorem codec_faithful : codec.Faithful codec.Finite :=
  ⟨writableIn_toJson, ofJson?_toJson, finite_of_ofJson?⟩

end Query

namespace QuerySet

/-- The doubles of a query set. -/
def doubles (set : QuerySet) : List Float :=
  set.queries.flatMap Query.doubles ++ set.transforms.flatMap Transform.doubles

def codec : Codec QuerySet := ⟨toJson, ofJson?, doubles⟩

variable {set : QuerySet}

theorem writableIn_toJson (h : codec.Kept set) : WritableIn 6 set.toJson := by
  have hqueries : ∀ query ∈ set.queries, WritableIn 4 query.toJson :=
    fun query hmem => Query.writableIn_toJson fun x hx =>
      h x (List.mem_append_left _ (List.mem_flatMap.2 ⟨query, hmem, hx⟩))
  have htransforms : ∀ transform ∈ set.transforms, WritableIn 4 transform.toJson :=
    fun transform hmem => Transform.writableIn_toJson fun x hx =>
      h x (List.mem_append_right _ (List.mem_flatMap.2 ⟨transform, hmem, hx⟩))
  refine .object ?_
  simp only [List.forall_mem_cons]
  exact ⟨writableIn_ofInt64 _, writableIn_ofInt64 _, writableIn_map hqueries, .string _,
    writableIn_map htransforms, .scalar trivial, writableIn_ofOption writableIn_ofUInt64 _,
    List.forall_mem_nil _⟩

theorem ofJson?_toJson (h : codec.Finite set) : ofJson? set.toJson = some set := by
  have hrecord : set.toJson.toRecord? fields false = some ⟨_, false⟩ :=
    toRecord?_object rfl rfl
  have hqueries : toList? Query.ofJson? (.array (set.queries.map Query.toJson)) =
      some set.queries :=
    toList?_map fun query hmem => Query.ofJson?_toJson fun x hx =>
      h x (List.mem_append_left _ (List.mem_flatMap.2 ⟨query, hmem, hx⟩))
  have htransforms : toList? Transform.ofJson? (.array (set.transforms.map Transform.toJson)) =
      some set.transforms :=
    toList?_map fun transform hmem => Transform.ofJson?_toJson fun x hx =>
      h x (List.mem_append_right _ (List.mem_flatMap.2 ⟨transform, hmem, hx⟩))
  have hlimit : toOption? toUInt64? (ofOption ofUInt64 set.limit) = some set.limit :=
    toOption?_ofOption toUInt64?_ofUInt64 nofun _
  rw [ofJson?, hrecord]
  simp [Record.required, Record.nullable, Record.get?, List.lookup_cons, toText?, toBool?,
    toInt64?_ofInt64, hqueries, htransforms, hlimit]

theorem finite_of_ofJson? {json : Json} (hjson : AllFinite json)
    (h : ofJson? json = some set) : codec.Finite set := by
  simp only [ofJson?, Option.bind_eq_bind, Option.bind_eq_some_iff] at h
  obtain ⟨record, hrecord, start, -, stop, -, queries, hqueries, expression, -, transforms,
    htransforms, instant, -, limit, -, hset⟩ := h
  cases hset
  have hfields := allFinite_of_toRecord? hjson hrecord
  obtain ⟨first, hfirst, hqueries⟩ := exists_of_required hfields hqueries
  obtain ⟨second, hsecond, htransforms⟩ := exists_of_required hfields htransforms
  exact List.forall_mem_append.2 ⟨finite_of_toList? Query.finite_of_ofJson? hfirst hqueries,
    finite_of_toList? Transform.finite_of_ofJson? hsecond htransforms⟩

theorem codec_faithful : codec.Faithful codec.Finite :=
  ⟨writableIn_toJson, ofJson?_toJson, finite_of_ofJson?⟩

end QuerySet

namespace Row

def codec : Codec Row := ⟨toJson, ofJson?, fun row => [row.value]⟩

/-- Whether a row can be read from its text: its number is one, and no dimension has
the name of the number. -/
structure Fits (row : Row) : Prop where
  finite : Decimal.isFinite row.value = true
  named : ∀ entry ∈ row.dimensions.entries, entry.1 ≠ "value"

/-- A dimension as a member of the form. -/
def member (entry : String × String) : String × Json := (entry.1, .string entry.2)

variable {n : Nat} {row : Row}

theorem toJson_eq (row : Row) :
    row.toJson =
      .object (row.dimensions.entries.map member ++ [(valueField, .ofFloat row.value)]) :=
  rfl

theorem writableIn_toJson (h : codec.Kept row) : WritableIn (n + 1) row.toJson := by
  have hvalue : Decimal.isFinite row.value = true → ReadsBack row.value :=
    h row.value (List.mem_cons_self ..)
  refine .object (List.forall_mem_append.2 ⟨List.forall_mem_map.2 fun entry _ => .string _, ?_⟩)
  exact List.forall_mem_cons.2 ⟨writableIn_ofFloat hvalue, List.forall_mem_nil _⟩

theorem readDimension_eq_some_iff {field : String × Json} {entry : String × String} :
    readDimension field = some entry ↔ field = member entry := by
  obtain ⟨name, value⟩ := field
  cases value <;> simp [readDimension, toText?, member, Prod.ext_iff, eq_comm]

/-- Dimensions are read from their texts and from nothing else. -/
theorem mapM_readDimension_eq_some_iff {fields : List (String × Json)}
    {entries : List (String × String)} :
    fields.mapM readDimension = some entries ↔ fields = entries.map member := by
  rw [mapM_eq_some_iff, ← List.forall₂_eq_eq_eq, List.forall₂_map_right_iff]
  simp only [readDimension_eq_some_iff]

theorem ofJson?_toJson (h : row.Fits) : ofJson? row.toJson = some row := by
  have hnamed : ∀ field ∈ row.dimensions.entries.map member ++ [], field.1 ≠ valueField := by
    rw [List.append_nil]
    exact List.forall_mem_map.2 h.named
  have hnumber : ofFloat row.value = .float row.value := if_pos h.finite
  rw [toJson_eq, ofJson?, filter_unnamed hnamed, filter_named hnamed, List.append_nil,
    mapM_readDimension_eq_some_iff.2 rfl, hnumber]
  simp [ofPairs, toFloat?, Data.Dictionary.ofList_entries]

theorem fits_of_ofJson? {json : Json} (hjson : AllFinite json) (h : ofJson? json = some row) :
    row.Fits := by
  unfold ofJson? at h
  split at h
  · next members =>
    cases hjson with
    | object hmembers =>
    obtain ⟨dimensions, hdimensions, h⟩ := Option.bind_eq_some_iff.1 h
    split at h
    · next heq =>
      obtain ⟨x, hx, h⟩ := Option.bind_eq_some_iff.1 h
      cases h
      refine ⟨?_, fun entry hentry => ?_⟩
      · exact isFinite_of_toFloat?
          (hmembers _ (List.mem_of_mem_filter (heq ▸ List.mem_cons_self ..))) hx
      · have hfield : member entry ∈ members.filter fun field => field.1 != valueField := by
          rw [mapM_readDimension_eq_some_iff.1 hdimensions]
          exact List.mem_map_of_mem (Data.Dictionary.mem_of_mem_ofList hentry)
        simpa [member, valueField] using (List.mem_filter.1 hfield).2
    · cases h
  · cases h

theorem codec_faithful : codec.Faithful Fits :=
  ⟨writableIn_toJson, ofJson?_toJson, fits_of_ofJson?⟩

end Row

/-! ### Texts -/

namespace QuerySet

/-- What is posted is the text of the query set. -/
theorem body_of_request {settings : StoreSettings} {set : QuerySet} {request : Http.Request}
    (h : Http.request? settings set = some request) : request.body = codec.write set := by
  rw [Http.request?] at h
  simp only [Option.bind_eq_bind, Option.bind_eq_some_iff] at h
  obtain ⟨url, -, h⟩ := h
  rw [← Option.some.inj h]
  rfl

/-- **Values are read back from their texts**, as long as the numbers in them are, and
so a posted body tells the query set.  Whatever text a value is read from, it is
written as a text of the same value. -/
theorem texts_exact :
    (codec.RoundTrips ∧ Query.codec.RoundTrips ∧ Transform.codec.RoundTrips
      ∧ Filter.codec.RoundTrips ∧ Condition.codec.RoundTrips ∧ Window.codec.RoundTrips
      ∧ Params.codec.RoundTrips ∧ Probe.codec.RoundTrips ∧ ServerProfile.codec.RoundTrips)
    ∧ (∀ (settings settings' : StoreSettings) (set set' : QuerySet)
          (request request' : Http.Request),
        codec.Finite set → codec.Kept set → codec.Finite set' → codec.Kept set' →
        Http.request? settings set = some request → Http.request? settings' set' = some request' →
        request.body = request'.body → set = set')
    ∧ (codec.Idempotent ∧ Query.codec.Idempotent ∧ Transform.codec.Idempotent
      ∧ Filter.codec.Idempotent ∧ Condition.codec.Idempotent ∧ Window.codec.Idempotent
      ∧ Params.codec.Idempotent ∧ Probe.codec.Idempotent ∧ ServerProfile.codec.Idempotent
      ∧ Row.codec.Idempotent) := by
  refine ⟨⟨codec_faithful.roundTrips, Query.codec_faithful.roundTrips,
      Transform.codec_faithful.roundTrips, Filter.codec_faithful.roundTrips,
      Condition.codec_faithful.roundTrips, Window.codec_faithful.roundTrips,
      Params.codec_faithful.roundTrips, Probe.codec_faithful.roundTrips,
      ServerProfile.codec_faithful.roundTrips⟩, ?_,
    ⟨codec_faithful.idempotent, Query.codec_faithful.idempotent,
      Transform.codec_faithful.idempotent, Filter.codec_faithful.idempotent,
      Condition.codec_faithful.idempotent, Window.codec_faithful.idempotent,
      Params.codec_faithful.idempotent, Probe.codec_faithful.idempotent,
      ServerProfile.codec_faithful.idempotent, Row.codec_faithful.idempotent⟩⟩
  intro settings settings' set set' request request' hfinite hkept hfinite' hkept' hrequest
    hrequest' hbody
  have hset := codec_faithful.roundTrips set hfinite hkept
  have hset' := codec_faithful.roundTrips set' hfinite' hkept'
  rw [← body_of_request hrequest, hbody, body_of_request hrequest', hset'] at hset
  exact (Option.some.inj hset).symm

/-- A quantile of one metric, whose scalar is read back, and which no other query set is
posted like; and a window that is read from an array and written as an object. -/
theorem texts_exact_quantile :
    (∃ set : QuerySet, set.transforms = [.quantile 0.95] ∧
      codec.read? (codec.write set) = some set ∧
      ∃ request, Http.request? {} set = some request ∧
        ∀ settings set' request', codec.Finite set' → codec.Kept set' →
          Http.request? settings set' = some request' → request.body = request'.body →
          set = set') ∧
    Window.codec.read? "[60, 120]" = some ⟨60, 120⟩ ∧
    Window.codec.read? (Window.codec.write ⟨60, 120⟩) = some ⟨60, 120⟩ := by
  let set : QuerySet := {
    start := 0, stop := 60000
    queries := [{
      table := "t", label := "a", metric := "m", method := .sum, interval := 60, groupBy := ["le"]
      filter := ⟨[.equal "k" "v"]⟩, transforms := [.increase 60] }]
    expression := "a", transforms := [.quantile 0.95], instant := true, limit := none }
  have hdoubles : codec.doubles set = [0.95] := rfl
  have hfinite : codec.Finite set := by
    intro x hx
    rw [hdoubles] at hx
    obtain rfl := List.mem_singleton.1 hx
    decide +kernel
  have hkept : codec.Kept set := by
    intro x hx _
    rw [hdoubles] at hx
    obtain rfl := List.mem_singleton.1 hx
    decide +kernel
  have haddress : Http.endpoint {} set = "http://localhost:10205/query/instant" := by
    decide +kernel
  obtain ⟨url, hurl⟩ : ∃ url, Http.Url.read "http://localhost:10205/query/instant" = some url :=
    Option.isSome_iff_exists.1 (by decide +kernel)
  have hrequest : Http.request? {} set =
      some ⟨url, "POST", "application/json", codec.write set⟩ := by
    rw [Http.request?, haddress, hurl]
    rfl
  have hread : Window.codec.read? "[60, 120]" = some ⟨60, 120⟩ := by decide +kernel
  refine ⟨⟨set, rfl, texts_exact.1.1 set hfinite hkept, _, hrequest, ?_⟩, hread,
    texts_exact.2.2.2.2.2.2.2.1 "[60, 120]" ⟨60, 120⟩ hread nofun⟩
  intro settings set' request' hfinite' hkept' hrequest' hbody
  exact texts_exact.2.1 {} settings set set' _ request' hfinite hkept hfinite' hkept' hrequest
    hrequest' hbody

end QuerySet

end RpcMetrics
