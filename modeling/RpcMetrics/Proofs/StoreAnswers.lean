import RpcMetrics.Proofs.QueryRoundTrip

/-! # Answers of the store

What may stand for a row in JSON is said without reading it (`Json.IsRow`): texts under
any names, and a number among them under its own.  An answer lists values (`Json.Lists`),
and it holds rows if each of them is a row.  Reading is defined by decoding one value
after the other; it comes to the same (`Row.ofJson?_eq_some_iff`,
`Row.answerOfJson?_eq_some_iff`), and as an answer lists one thing only
(`Json.Lists.unique`) there is nothing between all rows and none.

A row is written whatever its number is and whatever its dimensions are called, and the
form is that of a row only if the row fits (`Row.fits_of_ofJson?_toJson`).  For written
answers the condition is therefore on the rows alone.

**An answer is decoded completely or not at all** (`Http.answer_all_or_none`). -/
namespace RpcMetrics
open Json

/-! ### What stands for a row -/

/-- **What a row is in JSON**: an object with a number under its name and texts under all
other names, of which the last of each name stays. -/
inductive Json.IsRow : Json → Row → Prop
  /-- The number may stand anywhere among the texts. -/
  | object {before after : List (String × Json)} {dimensions : List (String × String)}
      {number : Json} {x : Float} (texts : before ++ after = dimensions.map Row.member)
      (named : ∀ entry ∈ dimensions, entry.1 ≠ "value")
      (value : number.toFloat? = some x) :
      IsRow (.object (before ++ ("value", number) :: after)) ⟨.ofList dimensions, x⟩

/-- **What an answer lists**: the items of its only member `rows`, or of its only item if
it is an array, and nothing if there is none. -/
inductive Json.Lists : Json → List Json → Prop
  /-- The items stand under their name. -/
  | named {before after : List (String × Json)} {items : List Json}
      (only : ∀ member ∈ before ++ after, member.1 ≠ "rows") :
      Lists (.object (before ++ ("rows", .array items) :: after)) items
  /-- There is nothing under the name. -/
  | absent {members : List (String × Json)} (none : ∀ member ∈ members, member.1 ≠ "rows") :
      Lists (.object members) []
  /-- The items stand in their place. -/
  | placed {items : List Json} : Lists (.array [.array items]) items
  /-- There is nothing in the place. -/
  | empty : Lists (.array []) []

/-! ### What an answer lists -/

/-- What stands in an answer where its items are looked for. -/
def Json.answerFields? : Json → Option (List Json)
  | .object members => some ((members.filter fun member => member.1 == "rows").map Prod.snd)
  | .array fields => some fields
  | _ => none

section Lists
variable {json : Json} {items items' : List Json}

theorem Json.lists_iff : json.Lists items ↔
    json.answerFields? = some [.array items] ∨ json.answerFields? = some [] ∧ items = [] := by
  constructor
  · intro h
    cases h with
    | named honly => exact .inl (by rw [answerFields?, filter_named honly]; rfl)
    | @absent members hnone =>
      have hfilter : members.filter (fun member => member.1 == "rows") = [] :=
        List.filter_eq_nil_iff.2 (by simpa using hnone)
      exact .inr ⟨by rw [answerFields?, hfilter]; rfl, rfl⟩
    | placed => exact .inl rfl
    | empty => exact .inr ⟨rfl, rfl⟩
  · intro h
    cases json with
    | object members =>
      simp only [answerFields?, Option.some.injEq, List.map_eq_singleton_iff,
        List.map_eq_nil_iff] at h
      rcases h with ⟨⟨name, value⟩, hone, rfl⟩ | ⟨hnone, rfl⟩
      · obtain ⟨rfl, before, after, rfl, hothers⟩ := exists_of_filter_named hone
        exact .named hothers
      · exact .absent (by simpa [List.filter_eq_nil_iff] using hnone)
    | array fields =>
      rcases h with h | ⟨h, rfl⟩
      · obtain rfl := Option.some.inj h
        exact .placed
      · obtain rfl := Option.some.inj h
        exact .empty
    | _ => simp [answerFields?] at h

/-- An answer lists one thing only. -/
theorem Json.Lists.unique (h : json.Lists items) (h' : json.Lists items') : items = items' := by
  rw [lists_iff] at h h'
  rcases h with h | ⟨h, rfl⟩ <;> rcases h' with h' | ⟨h', rfl⟩ <;> simp_all

end Lists

/-! ### Reading rows -/

namespace Row

/-- **A row is read iff one is there.** -/
theorem ofJson?_eq_some_iff {json : Json} {row : Row} :
    ofJson? json = some row ↔ json.IsRow row := by
  constructor
  · intro h
    unfold ofJson? at h
    split at h
    · next members =>
      obtain ⟨dimensions, hdimensions, h⟩ := Option.bind_eq_some_iff.1 h
      split at h
      · next name number heq =>
        obtain ⟨x, hx, h⟩ := Option.bind_eq_some_iff.1 h
        cases h
        obtain ⟨rfl, before, after, rfl, hothers⟩ := exists_of_filter_named heq
        rw [filter_unnamed hothers, mapM_readDimension_eq_some_iff] at hdimensions
        rw [hdimensions] at hothers
        have hnamed : ∀ entry ∈ dimensions, entry.1 ≠ valueField := fun entry hentry =>
          hothers (member entry) (List.mem_map_of_mem hentry)
        exact .object hdimensions hnamed hx
      · cases h
    · cases h
  · rintro ⟨htexts, hnamed, hvalue⟩
    next before after dimensions number x =>
    have hothers : ∀ field ∈ before ++ after, field.1 ≠ valueField := by
      rw [htexts]
      exact List.forall_mem_map.2 hnamed
    rw [← valueField, ofJson?, filter_unnamed hothers, mapM_readDimension_eq_some_iff.2 htexts,
      filter_named hothers]
    simp [hvalue, ofPairs]

/-- **Only a row that fits is written as one.** -/
theorem fits_of_ofJson?_toJson {row other : Row} (h : ofJson? row.toJson = some other) :
    row.Fits := by
  rw [toJson_eq, ofJson?] at h
  obtain ⟨dimensions, -, h⟩ := Option.bind_eq_some_iff.1 h
  split at h
  · next name number heq =>
    obtain ⟨x, hx, -⟩ := Option.bind_eq_some_iff.1 h
    rw [List.filter_append, List.filter_cons_of_pos (by simp), List.filter_nil,
      List.append_eq_singleton_iff] at heq
    rcases heq with ⟨hnone, hnumber⟩ | ⟨-, hnumber⟩
    · obtain ⟨rfl, rfl⟩ := Prod.mk.inj (List.singleton_inj.1 hnumber)
      refine ⟨?_, fun entry hentry => ?_⟩
      · by_contra hfinite
        rw [ofFloat, if_neg hfinite] at hx
        cases hx
      · have hmember := List.filter_eq_nil_iff.1 hnone _ (List.mem_map_of_mem hentry)
        simpa [member, valueField] using hmember
    · cases hnumber
  · cases h

end Row

/-! ### Reading answers -/

/-- The rows in a field, which may be missing and may not be repeated. -/
def Row.ofFields? : List Json → Option (List Row)
  | [] => some []
  | [rows] => toList? ofJson? rows
  | _ => none

theorem Row.answerOfJson?_eq (json : Json) :
    answerOfJson? json = json.answerFields?.bind ofFields? := by
  cases json with
  | object members =>
    have hnames : (fun member : String × Json => ["rows"].contains member.1) =
        fun member => member.1 == "rows" := by
      funext member
      simp [beq_eq_decide]
    have hnamed : ∀ member ∈ members.filter (fun member => member.1 == "rows"),
        member.1 = "rows" := fun member hmember => by simpa using (List.mem_filter.1 hmember).2
    rw [answerOfJson?, toRecord?, Record.ofMembers?, hnames, answerFields?]
    generalize members.filter (fun member => member.1 == "rows") = fields at hnamed ⊢
    rcases fields with _ | ⟨⟨name, rows⟩, _ | ⟨second, others⟩⟩
    · rfl
    · obtain rfl : name = "rows" := hnamed _ (List.mem_cons_self ..)
      rfl
    · simp only [List.forall_mem_cons] at hnamed
      simp [Record.distinct, ofFields?, hnamed.1, hnamed.2.1]
  | array fields =>
    rcases fields with _ | ⟨rows, _ | ⟨second, others⟩⟩
    · rfl
    · rfl
    · simp [answerOfJson?, toRecord?, answerFields?, ofFields?]
  | _ => rfl

/-- A field of rows is read iff it lists rows. -/
theorem Row.toList?_eq_some_iff {json : Json} {rows : List Row} :
    toList? ofJson? json = some rows ↔
      ∃ items, json = .array items ∧ List.Forall₂ Json.IsRow items rows := by
  cases json <;> simp [toList?, mapM_eq_some_iff, ofJson?_eq_some_iff]

/-- **An answer is read iff each thing that it lists is a row.** -/
theorem Row.answerOfJson?_eq_some_iff {json : Json} {rows : List Row} :
    answerOfJson? json = some rows ↔
      ∃ items, json.Lists items ∧ List.Forall₂ Json.IsRow items rows := by
  rw [answerOfJson?_eq]
  simp only [lists_iff]
  constructor
  · intro h
    obtain ⟨fields, hfields, h⟩ := Option.bind_eq_some_iff.1 h
    rw [hfields]
    rcases fields with _ | ⟨field, _ | ⟨second, others⟩⟩
    · cases h
      exact ⟨[], .inr ⟨rfl, rfl⟩, .nil⟩
    · obtain ⟨items, rfl, hrows⟩ := toList?_eq_some_iff.1 h
      exact ⟨items, .inl rfl, hrows⟩
    · cases h
  · rintro ⟨items, hone | ⟨hnone, rfl⟩, hrows⟩
    · rw [hone]
      exact toList?_eq_some_iff.2 ⟨items, rfl, hrows⟩
    · cases hrows
      rw [hnone]
      rfl

/-! ### Written answers -/

namespace Row

def answerCodec : Codec (List Row) := ⟨answerToJson, answerOfJson?, fun rows => rows.map value⟩

variable {rows others : List Row}

theorem writableIn_answerToJson (h : answerCodec.Kept rows) : WritableIn 6 (answerToJson rows) := by
  have hrows : ∀ row ∈ rows, WritableIn 4 row.toJson := fun row hrow =>
    writableIn_toJson fun x hx => h x (by
      obtain rfl := List.mem_singleton.1 hx
      exact List.mem_map_of_mem hrow)
  exact .object (List.forall_mem_cons.2 ⟨writableIn_map hrows, List.forall_mem_nil _⟩)

/-- A written answer is decoded as it was put into JSON. -/
theorem read?_write_answer (h : answerCodec.Kept rows) :
    answerCodec.read? (answerCodec.write rows) = answerOfJson? (answerToJson rows) := by
  rw [Codec.read?, Codec.write]
  have hparse : parse (answerToJson rows).write = some (answerToJson rows) :=
    parse_write (writableIn_answerToJson h) (by decide)
  exact hparse ▸ rfl

theorem answerOfJson?_toJson (h : ∀ row ∈ rows, row.Fits) :
    answerOfJson? (answerToJson rows) = some rows :=
  toList?_map fun row hrow => ofJson?_toJson (h row hrow)

/-- **Only rows that fit are written as an answer**, whatever it is read as. -/
theorem fits_of_answerOfJson?_toJson (h : answerOfJson? (answerToJson rows) = some others) :
    ∀ row ∈ rows, row.Fits := by
  have hrows : List.Forall₂ (fun row other => ofJson? row.toJson = some other) rows others :=
    List.forall₂_map_left_iff.1 (mapM_eq_some_iff.1 h)
  intro row hrow
  obtain ⟨other, -, hother⟩ := exists_of_forall₂ hrows.flip row hrow
  exact fits_of_ofJson?_toJson hother

end Row

namespace Http

/-! ### Responses -/

theorem isSuccess_iff {status : Nat} : isSuccess status = true ↔ 200 ≤ status ∧ status < 300 := by
  simp [isSuccess]

/-- Of the codes that stand for success one is that of a response without a body. -/
theorem hasBody_of_isSuccess {status : Nat} (h : isSuccess status = true) (hne : status ≠ 204) :
    hasBody status = true := by
  rw [isSuccess_iff] at h
  simp only [hasBody, Bool.and_eq_true, decide_eq_true_eq, bne_iff_ne]
  omega

namespace Response
variable {response : Response}

/-- The text of a response with an object is the body: no mark is taken away. -/
theorem text_of_object {members : List (String × Json)} (hbody : hasBody response.status = true)
    (h : response.body = (Json.object members).write) :
    response.text = (Json.object members).write := by
  obtain ⟨rest, hrest⟩ : ∃ rest, (Json.object members).write.toList = '\x7b' :: rest := by
    cases members <;> exact ⟨_, String.toList_ofList⟩
  rw [text, if_pos hbody, h]
  split
  -- the text would begin with a byte order mark, and it begins with a brace
  · next heq =>
    rw [hrest] at heq
    cases heq
  · rfl

variable (hsuccess : isSuccess response.status = true)
include hsuccess

theorem rows_eq_ok_iff {rows : List Row} :
    response.rows = .ok rows ↔ Row.answerCodec.read? response.text = some rows := by
  have hread : Row.answerCodec.read? response.text =
      (parse response.text).bind Row.answerOfJson? := rfl
  rw [Response.rows, if_pos hsuccess, hread]
  cases (parse response.text).bind Row.answerOfJson? <;> simp

/-- **Rows are those that the body lists**, each of them. -/
theorem rows_eq_ok_iff_lists {rows : List Row} : response.rows = .ok rows ↔ ∃ json items,
    parse response.text = some json ∧ json.Lists items ∧ List.Forall₂ Json.IsRow items rows := by
  simp only [rows_eq_ok_iff hsuccess, Codec.read?, Option.bind_eq_some_iff]
  constructor
  · rintro ⟨json, hjson, hrows⟩
    obtain ⟨items, hlists, hall⟩ := Row.answerOfJson?_eq_some_iff.1 hrows
    exact ⟨json, items, hjson, hlists, hall⟩
  · rintro ⟨json, items, hjson, hlists, hall⟩
    exact ⟨json, hjson, Row.answerOfJson?_eq_some_iff.2 ⟨items, hlists, hall⟩⟩

/-- With success there are rows, or else the body is at fault. -/
theorem rows_ok_or_serialization :
    (∃ rows, response.rows = .ok rows) ∨
      ∃ words, response.rows = .error (.serialization words) := by
  rw [rows, if_pos hsuccess]
  split
  · exact .inl ⟨_, rfl⟩
  · exact .inr ⟨_, rfl⟩

end Response

theorem answer_store {settings : StoreSettings} {wire : Wire} {set : QuerySet}
    {response : Response} (h : respond settings wire set = some response) :
    (store settings wire set).answer = response.rows := by
  rw [store, h]

/-- **An answer is decoded completely or not at all.**  With success, rows that have been
written are answered in their order iff all of them fit; if one does not, the body is at
fault and no row is answered.  Whatever the body is, rows are answered iff each thing that
it lists is one, and the body is at fault otherwise, as soon as one thing is no row.
Without success the store is at fault. -/
theorem answer_all_or_none {settings : StoreSettings} {wire : Wire} {set : QuerySet}
    {response : Response} (h : respond settings wire set = some response) :
    (200 ≤ response.status ∧ response.status < 300 →
      (∀ rows, Row.answerCodec.Kept rows → response.status ≠ 204 →
        response.body = Row.answerCodec.write rows →
        ((store settings wire set).answer = .ok rows ↔ ∀ row ∈ rows, row.Fits) ∧
        ((∃ row ∈ rows, ¬ row.Fits) →
          ∃ words, (store settings wire set).answer = .error (.serialization words))) ∧
      (∀ rows, (store settings wire set).answer = .ok rows ↔ ∃ json items,
        parse response.text = some json ∧ json.Lists items ∧
          List.Forall₂ Json.IsRow items rows) ∧
      ((∀ rows, (store settings wire set).answer ≠ .ok rows) →
        ∃ words, (store settings wire set).answer = .error (.serialization words)) ∧
      ∀ json items, parse response.text = some json → json.Lists items →
        (∃ item ∈ items, ∀ row, ¬ item.IsRow row) →
        ∃ words, (store settings wire set).answer = .error (.serialization words)) ∧
    (¬ (200 ≤ response.status ∧ response.status < 300) → (store settings wire set).answer =
      .error (.store (statusText response.status ++ ": " ++ response.text))) := by
  rw [answer_store h]
  rw [← isSuccess_iff]
  refine ⟨fun hsuccess => ?_, fun hfailure => by simp [Response.rows, hfailure]⟩
  have hrefused (hnone : ∀ rows, response.rows ≠ .ok rows) :
      ∃ words, response.rows = .error (.serialization words) :=
    (Response.rows_ok_or_serialization hsuccess).resolve_left fun ⟨rows, hrows⟩ =>
      hnone rows hrows
  refine ⟨fun rows hkept hstatus hwritten => ?_,
    fun rows => Response.rows_eq_ok_iff_lists hsuccess, hrefused,
    fun json items hjson hlists ⟨item, hitem, hnone⟩ => hrefused fun rows hrows => ?_⟩
  -- of a written answer other rows cannot be read: what is read at all fits
  · have hread : Row.answerCodec.read? response.text =
        Row.answerOfJson? (Row.answerToJson rows) := by
      rw [Response.text_of_object (hasBody_of_isSuccess hsuccess hstatus) hwritten]
      exact Row.read?_write_answer hkept
    have hfits {others : List Row} (hothers : response.rows = .ok others) :
        ∀ row ∈ rows, row.Fits := by
      rw [Response.rows_eq_ok_iff hsuccess, hread] at hothers
      exact Row.fits_of_answerOfJson?_toJson hothers
    refine ⟨⟨hfits, fun hrows => ?_⟩, fun ⟨row, hrow, hunfit⟩ => ?_⟩
    · rw [Response.rows_eq_ok_iff hsuccess, hread, Row.answerOfJson?_toJson hrows]
    · exact hrefused fun others hothers => hunfit (hfits hothers row hrow)
  -- rows would stand for everything that is listed, and so for the thing that is none
  · obtain ⟨json', items', hjson', hlists', hall⟩ :=
      (Response.rows_eq_ok_iff_lists hsuccess).1 hrows
    obtain rfl := Option.some.inj (hjson.symm.trans hjson')
    obtain rfl := hlists.unique hlists'
    obtain ⟨row, -, hrow⟩ := exists_of_forall₂ hall.flip item hitem
    exact hnone row hrow

/-- The rows of two servers are answered.  If the second has a dimension under the name of
the number, neither is; and what the store says without success is handed on. -/
theorem answer_all_or_none_servers :
    ∃ set : QuerySet, set.instant = true ∧
      let first : Row := .ofPairs [("callee_server", "svcA")] 10
      let second : Row := .ofPairs [("callee_server", "svcB")] 0.5
      let unfit : Row := .ofPairs [("value", "svcB")] 0.5
      (store {} (fun _ => some ⟨200, Row.answerCodec.write [first, second]⟩) set).answer =
        .ok [first, second] ∧
      (∃ words, (store {} (fun _ => some ⟨200, Row.answerCodec.write [first, unfit]⟩) set).answer =
        .error (.serialization words)) ∧
      (store {} (fun _ => some ⟨500, "boom"⟩) set).answer =
        .error (.store "500 Internal Server Error: boom") := by
  let set : QuerySet := {
    start := 0, stop := 60000
    queries := [{
      table := "t", label := "a", metric := "m", method := .sum, interval := 60
      groupBy := ["callee_server"], filter := ⟨[]⟩, transforms := [.increase 60] }]
    expression := "a", transforms := [], instant := true, limit := none }
  refine ⟨set, rfl, ?_⟩
  intro first second unfit
  have haddress : endpoint {} set = "http://localhost:10205/query/instant" := by decide +kernel
  obtain ⟨url, hurl⟩ : ∃ url, Url.read "http://localhost:10205/query/instant" = some url :=
    Option.isSome_iff_exists.1 (by decide +kernel)
  have hresponse {response : Response} (hends : endsExchange response.status = true) :
      respond {} (fun _ => some response) set = some response := by
    simp [respond, request?, haddress, hurl, hends]
  have hfirst : first.Fits := ⟨by decide +kernel, by decide⟩
  have hsecond : second.Fits := ⟨by decide +kernel, by decide⟩
  have hunfit : ¬ unfit.Fits := fun h => h.named ("value", "svcB") (by decide) rfl
  have hkept : Row.answerCodec.Kept [first, second] := by
    intro x hx _
    obtain rfl | rfl : x = 10 ∨ x = 0.5 := by
      simpa [Row.answerCodec, first, second, Row.ofPairs] using hx
    · decide +kernel
    · decide +kernel
  have hkept' : Row.answerCodec.Kept [first, unfit] := hkept
  refine ⟨?_, ?_, ?_⟩
  · exact (((answer_all_or_none (hresponse rfl)).1 (by decide)).1 _ hkept (by decide) rfl).1.2
      (by simp [hfirst, hsecond])
  · exact (((answer_all_or_none (hresponse rfl)).1 (by decide)).1 _ hkept' (by decide) rfl).2
      ⟨unfit, by simp, hunfit⟩
  · rw [(answer_all_or_none (hresponse rfl)).2 (by decide)]
    have hwords : statusText 500 = "500 Internal Server Error" := by decide +kernel
    rw [hwords]
    rfl

end Http
end RpcMetrics
