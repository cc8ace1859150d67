import QueryOptions.Json.Reading
import QueryOptions.Proofs.Json.Token

/-!
# Reading back a value

A value is read back from its text in either layout (`ofText?_text`), if its text says all of it:
numbers are JSON numbers and strings have characters (`Writable`).  The tokens of the value stand
between the two halves,

```text
  value  -- write -->  text  -- tokens? -->  tokens  -- ofTokens? -->  value
```

and neither half knows of the other.  The spaces of a layout are gone after the first half.  In the
second half the stack of open brackets is what the induction is over: the tokens of a value take the
reader from expecting a value to having delivered it, whatever brackets are open and whatever tokens
follow (`foldlM_tokens`).

A value holds values in lists, so both inductions are over `Writable`, with a list lemma for the
items of an array and for the fields of an object.
-/

namespace QueryOptions.Json

/-- The values that can be told from their text. -/
inductive Writable : Json → Prop
  | null : Writable null
  | boolean (b : Bool) : Writable (boolean b)
  | number {n : Numeral} (hn : n.Strict) : Writable (number n)
  | string (t : Text) : Writable (string (some t))
  | array {items : List Json} (hitems : ∀ v ∈ items, Writable v) : Writable (array items)
  | object {fields : List (Option Text × Json)} (hnames : ∀ f ∈ fields, f.1.isSome = true)
      (hvalues : ∀ f ∈ fields, Writable f.2) : Writable (object fields)

/-! ## The tokens of a value -/

mutual

def tokens : Json → List Token
  | null => [.null]
  | boolean b => [.boolean b]
  | number n => [.number n]
  | string s => [.string s]
  | array [] => [.openArray, .closeArray]
  | array (item :: items) => .openArray :: (tokens item ++ (itemTokens items ++ [.closeArray]))
  | object [] => [.openObject, .closeObject]
  | object ((name, value) :: fields) =>
    .openObject :: .string name :: .colon ::
      (tokens value ++ (fieldTokens fields ++ [.closeObject]))

/-- The tokens of the items of an array after the first. -/
def itemTokens : List Json → List Token
  | [] => []
  | item :: items => .comma :: (tokens item ++ itemTokens items)

/-- The tokens of the fields of an object after the first. -/
def fieldTokens : List (Option Text × Json) → List Token
  | [] => []
  | (name, value) :: fields => .comma :: .string name :: .colon :: (tokens value ++ fieldTokens fields)

end

/-! ## From the text to the tokens -/

theorem isSpace_lineStart (layout : Layout) (depth : ℕ) :
    ∀ c ∈ layout.lineStart depth, isSpace c = true := by
  intro c hc
  cases layout with
  | compact => cases hc
  | pretty =>
      rcases List.mem_cons.mp hc with rfl | hc
      · rfl
      · rw [List.eq_of_mem_replicate hc]
        rfl

theorem tokens?_lineStart_append (layout : Layout) (depth : ℕ) (rest : Text) :
    tokens? (layout.lineStart depth ++ rest) = tokens? rest :=
  tokens?_spaces_append (isSpace_lineStart layout depth) rest

theorem tokens?_colon_append (layout : Layout) {rest : Text} {ts : List Token}
    (hrest : tokens? rest = some ts) :
    tokens? (layout.colon ++ rest) = some (.colon :: ts) := by
  cases layout with
  | compact => exact tokens?_mark (c := ':') rfl (fun _ => rfl) hrest
  | pretty =>
      apply tokens?_mark (c := ':') rfl (fun _ => rfl)
      exact (tokens?_cons_space rfl rest).trans hrest

theorem endsNumber_mark {c : Char} (hc : c ∈ [',', ']', '\x7d', '\n']) (t : Text) :
    EndsNumber (c :: t) := by
  have hmarks : ∀ c ∈ [',', ']', '\x7d', '\n'],
      c.isDigit = false ∧ c ≠ '.' ∧ c ≠ 'e' ∧ c ≠ 'E' := by decide
  rintro d ⟨⟩
  exact hmarks c hc

theorem endsNumber_lineStart_append (layout : Layout) (depth : ℕ) {t : Text} (ht : EndsNumber t) :
    EndsNumber (layout.lineStart depth ++ t) := by
  cases layout with
  | compact => exact ht
  | pretty => exact endsNumber_mark (by decide) _

theorem endsNumber_writeItems_append (layout : Layout) (depth : ℕ) (items : List Json) {t : Text}
    (ht : EndsNumber t) : EndsNumber (writeItems layout depth items ++ t) := by
  cases items with
  | nil => exact ht
  | cons item items =>
      rw [writeItems]
      exact endsNumber_mark (by decide) _

theorem endsNumber_writeFields_append (layout : Layout) (depth : ℕ)
    (fields : List (Option Text × Json)) {t : Text} (ht : EndsNumber t) :
    EndsNumber (writeFields layout depth fields ++ t) := by
  cases fields with
  | nil => exact ht
  | cons field fields =>
      rw [writeFields]
      exact endsNumber_mark (by decide) _

/-- The tokens of the value are those of its text, wherever the text stands. -/
def ReadAsTokens (layout : Layout) (v : Json) : Prop :=
  ∀ depth rest ts, EndsNumber rest → tokens? rest = some ts →
    tokens? (write layout depth v ++ rest) = some (tokens v ++ ts)

theorem tokens?_writeItems {layout : Layout} {items : List Json}
    (hitems : ∀ v ∈ items, ReadAsTokens layout v) (depth : ℕ) {rest : Text} {ts : List Token}
    (hends : EndsNumber rest) (hrest : tokens? rest = some ts) :
    tokens? (writeItems layout depth items ++ rest) = some (itemTokens items ++ ts) := by
  induction items with
  | nil => exact hrest
  | cons item items ih =>
      have hlater := ih fun v hv => hitems v (List.mem_cons_of_mem item hv)
      have hitem := hitems item List.mem_cons_self depth _ _
        (endsNumber_writeItems_append layout depth items hends) hlater
      rw [writeItems, itemTokens, List.cons_append, List.cons_append, List.append_assoc,
        List.append_assoc, List.append_assoc]
      apply tokens?_mark rfl fun _ => rfl
      rw [tokens?_lineStart_append]
      exact hitem

/-- A field is a name, a colon and a value. -/
theorem tokens?_field {layout : Layout} (name : Text) {value : Json}
    (hvalue : ReadAsTokens layout value) (depth : ℕ) {rest : Text} {ts : List Token}
    (hends : EndsNumber rest) (hrest : tokens? rest = some ts) :
    tokens? (layout.lineStart depth ++ (stringText name ++ (layout.colon ++
        (write layout depth value ++ rest)))) =
      some (.string (some name) :: .colon :: (tokens value ++ ts)) := by
  rw [tokens?_lineStart_append]
  apply tokens?_stringText_append
  apply tokens?_colon_append
  exact hvalue depth rest ts hends hrest

theorem tokens?_writeFields {layout : Layout} {fields : List (Option Text × Json)}
    (hnames : ∀ f ∈ fields, f.1.isSome = true) (hvalues : ∀ f ∈ fields, ReadAsTokens layout f.2)
    (depth : ℕ) {rest : Text} {ts : List Token} (hends : EndsNumber rest)
    (hrest : tokens? rest = some ts) :
    tokens? (writeFields layout depth fields ++ rest) = some (fieldTokens fields ++ ts) := by
  induction fields with
  | nil => exact hrest
  | cons field fields ih =>
      obtain ⟨name, value⟩ := field
      obtain ⟨name, rfl⟩ := Option.isSome_iff_exists.mp (hnames _ List.mem_cons_self)
      have hlater := ih (fun f hf => hnames f (List.mem_cons_of_mem _ hf))
        fun f hf => hvalues f (List.mem_cons_of_mem _ hf)
      have hfield := tokens?_field name (hvalues _ List.mem_cons_self) depth
        (endsNumber_writeFields_append layout depth fields hends) hlater
      rw [writeFields, fieldTokens]
      simp only [List.cons_append, List.append_assoc]
      exact tokens?_mark rfl (fun _ => rfl) hfield

/-- **The tokens of a value are read from its text.** -/
theorem Writable.readAsTokens {v : Json} (hv : Writable v) (layout : Layout) :
    ReadAsTokens layout v := by
  induction hv with
  | null =>
      intro depth rest ts _ hrest
      rw [write]
      exact tokens?_append rfl rfl hrest
  | boolean b =>
      intro depth rest ts _ hrest
      rw [write]
      cases b with
      | true => exact tokens?_append rfl rfl hrest
      | false => exact tokens?_append rfl rfl hrest
  | @number n hn =>
      intro depth rest ts hends hrest
      rw [write]
      exact tokens?_text_append hn hends hrest
  | string t =>
      intro depth rest ts _ hrest
      rw [write]
      exact tokens?_stringText_append hrest
  | @array items _ ih =>
      intro depth rest ts _ hrest
      cases items with
      | nil =>
          rw [write]
          exact tokens?_mark rfl (fun _ => rfl) (tokens?_mark rfl (fun _ => rfl) hrest)
      | cons item items =>
          have hclose : tokens? (layout.lineStart depth ++ (']' :: rest)) =
              some (.closeArray :: ts) := by
            rw [tokens?_lineStart_append]
            exact tokens?_mark rfl (fun _ => rfl) hrest
          have hends := endsNumber_lineStart_append layout depth
            (endsNumber_mark (c := ']') (by decide) rest)
          have hlater := tokens?_writeItems (fun v hv => ih v (List.mem_cons_of_mem item hv))
            (depth + 1) hends hclose
          have hitem := ih item List.mem_cons_self (depth + 1) _ _
            (endsNumber_writeItems_append layout (depth + 1) items hends) hlater
          rw [write, tokens]
          simp only [List.cons_append, List.append_assoc, List.nil_append]
          apply tokens?_mark rfl fun _ => rfl
          rw [tokens?_lineStart_append]
          exact hitem
  | @object fields hnames _ ih =>
      intro depth rest ts _ hrest
      cases fields with
      | nil =>
          rw [write]
          exact tokens?_mark rfl (fun _ => rfl) (tokens?_mark rfl (fun _ => rfl) hrest)
      | cons field fields =>
          obtain ⟨name, value⟩ := field
          obtain ⟨name, rfl⟩ := Option.isSome_iff_exists.mp (hnames _ List.mem_cons_self)
          have hclose : tokens? (layout.lineStart depth ++ ('\x7d' :: rest)) =
              some (.closeObject :: ts) := by
            rw [tokens?_lineStart_append]
            exact tokens?_mark rfl (fun _ => rfl) hrest
          have hends := endsNumber_lineStart_append layout depth
            (endsNumber_mark (c := '\x7d') (by decide) rest)
          have hlater := tokens?_writeFields (fun f hf => hnames f (List.mem_cons_of_mem _ hf))
            (fun f hf => ih f (List.mem_cons_of_mem _ hf)) (depth + 1) hends hclose
          have hfield := tokens?_field name (ih _ List.mem_cons_self) (depth + 1)
            (endsNumber_writeFields_append layout (depth + 1) fields hends) hlater
          rw [write, tokens]
          simp only [List.cons_append, List.append_assoc, List.nil_append]
          exact tokens?_mark rfl (fun _ => rfl) hfield

/-! ## From the tokens to the value -/

theorem step_firstItem (stack : List Frame) {t : Token} (ht : t ≠ .closeArray) :
    State.step (.firstItem stack) t = State.step (.value (.array [] :: stack)) t := by
  cases t with
  | closeArray => exact absurd rfl ht
  | _ => rfl

/-- No value begins with the end of an array. -/
theorem exists_tokens_eq_cons (v : Json) : ∃ t ts, tokens v = t :: ts ∧ t ≠ .closeArray := by
  cases v with
  | array items =>
      cases items with
      | nil =>
          rw [tokens]
          exact ⟨_, _, rfl, nofun⟩
      | cons item items =>
          rw [tokens]
          exact ⟨_, _, rfl, nofun⟩
  | object fields =>
      cases fields with
      | nil =>
          rw [tokens]
          exact ⟨_, _, rfl, nofun⟩
      | cons field fields =>
          rw [tokens]
          exact ⟨_, _, rfl, nofun⟩
  | _ =>
      rw [tokens]
      exact ⟨_, _, rfl, nofun⟩

/-- The tokens of the value complete it, whatever brackets are open. -/
def Delivered (v : Json) : Prop :=
  ∀ stack ts, (tokens v ++ ts).foldlM State.step (.value stack) =
    ts.foldlM State.step (.deliver v stack)

/-- The first item of an array is read as every other value is. -/
theorem Delivered.first {v : Json} (hv : Delivered v) (stack : List Frame) (ts : List Token) :
    (tokens v ++ ts).foldlM State.step (.firstItem stack) =
      ts.foldlM State.step (.afterItem [v] stack) := by
  have hdelivered := hv (.array [] :: stack) ts
  obtain ⟨t, us, htokens, ht⟩ := exists_tokens_eq_cons v
  rw [htokens, List.cons_append, List.foldlM_cons] at hdelivered ⊢
  rw [step_firstItem stack ht]
  exact hdelivered

theorem foldlM_itemTokens {items : List Json} (hitems : ∀ v ∈ items, Delivered v)
    (done : List Json) (stack : List Frame) (ts : List Token) :
    (itemTokens items ++ .closeArray :: ts).foldlM State.step (.afterItem done stack) =
      ts.foldlM State.step (.deliver (.array (done.reverse ++ items)) stack) := by
  induction items generalizing done with
  | nil =>
      rw [itemTokens, List.append_nil]
      rfl
  | cons item items ih =>
      have hlater := ih (fun v hv => hitems v (List.mem_cons_of_mem item hv)) (item :: done)
      rw [List.reverse_cons, List.append_assoc] at hlater
      rw [itemTokens, List.cons_append, List.append_assoc]
      exact (hitems item List.mem_cons_self (.array done :: stack) _).trans hlater

theorem foldlM_fieldTokens {fields : List (Option Text × Json)}
    (hfields : ∀ f ∈ fields, Delivered f.2) (done : List (Option Text × Json))
    (stack : List Frame) (ts : List Token) :
    (fieldTokens fields ++ .closeObject :: ts).foldlM State.step (.afterField done stack) =
      ts.foldlM State.step (.deliver (.object (done.reverse ++ fields)) stack) := by
  induction fields generalizing done with
  | nil =>
      rw [fieldTokens, List.append_nil]
      rfl
  | cons field fields ih =>
      obtain ⟨name, value⟩ := field
      have hlater := ih (fun f hf => hfields f (List.mem_cons_of_mem _ hf))
        ((name, value) :: done)
      rw [List.reverse_cons, List.append_assoc] at hlater
      rw [fieldTokens, List.cons_append, List.cons_append, List.cons_append, List.append_assoc]
      exact (hfields _ List.mem_cons_self (.object done name :: stack) _).trans hlater

/-- **The tokens of a value are read as the value.** -/
theorem Writable.delivered {v : Json} (hv : Writable v) : Delivered v := by
  induction hv with
  | null =>
      intro stack ts
      rw [tokens]
      rfl
  | boolean b =>
      intro stack ts
      rw [tokens]
      rfl
  | number hn =>
      intro stack ts
      rw [tokens]
      rfl
  | string t =>
      intro stack ts
      rw [tokens]
      rfl
  | @array items _ ih =>
      intro stack ts
      cases items with
      | nil =>
          rw [tokens]
          rfl
      | cons item items =>
          have hfirst := (ih item List.mem_cons_self).first stack
            (itemTokens items ++ .closeArray :: ts)
          have hlater := foldlM_itemTokens (fun v hv => ih v (List.mem_cons_of_mem item hv))
            [item] stack ts
          rw [tokens]
          simp only [List.cons_append, List.append_assoc, List.nil_append]
          exact hfirst.trans hlater
  | @object fields _ _ ih =>
      intro stack ts
      cases fields with
      | nil =>
          rw [tokens]
          rfl
      | cons field fields =>
          obtain ⟨name, value⟩ := field
          have hfirst := ih _ List.mem_cons_self (.object [] name :: stack)
            (fieldTokens fields ++ .closeObject :: ts)
          have hlater := foldlM_fieldTokens (fun f hf => ih f (List.mem_cons_of_mem _ hf))
            [(name, value)] stack ts
          rw [tokens]
          simp only [List.cons_append, List.append_assoc, List.nil_append]
          exact hfirst.trans hlater

/-! ## From the text to the value -/

/-- **A value is read back from its text**, in either layout. -/
theorem Writable.ofText?_text {v : Json} (hv : Writable v) (layout : Layout) :
    ofText? (v.text layout) = some v := by
  have htokens : tokens? (v.text layout) = some (tokens v) := by
    have hread := hv.readAsTokens layout 0 [] [] (by rintro c ⟨⟩) rfl
    rwa [List.append_nil, List.append_nil] at hread
  have hvalue : (tokens v).foldlM State.step (.value []) = some (.done v) := by
    have hread := hv.delivered [] []
    rwa [List.append_nil] at hread
  unfold ofText?
  rw [htokens, Option.bind_some, ofTokens?, hvalue]

end QueryOptions.Json
