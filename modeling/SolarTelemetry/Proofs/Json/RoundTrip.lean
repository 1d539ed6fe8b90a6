import SolarTelemetry.Proofs.Json.Numbers
import SolarTelemetry.Proofs.Json.Strings

/-!
# What is written is read back

The text of a value holds no control character, and reading it gives what the value says. A text
spells tokens if these are read from it whatever follows, as long as it does not go on with a
number; and tokens mean a value if a reader who expects one goes on behind it.
-/

namespace SolarTelemetry.Json

mutual

/-- What the text of a value says. -/
def value : Json → Value
  | .null => .null
  | .bool b => .bool b
  | .integer n => .number n
  | .decimal d => .number ((d.units : ℚ) / 10 ^ d.places)
  | .text s => .text s
  | .list items => .list (values items)
  | .object fields => .object (members fields)

def values : List Json → List Value
  | [] => []
  | item :: items => value item :: values items

def members : List (String × Json) → List (String × Value)
  | [] => []
  | (name, j) :: fields => (name, value j) :: members fields

end

theorem values_eq_map (items : List Json) : values items = items.map value := by
  induction items with
  | nil => rfl
  | cons item items ih => rw [values, ih, List.map_cons]

theorem members_eq_map (fields : List (String × Json)) :
    members fields = fields.map fun (name, j) => (name, value j) := by
  induction fields with
  | nil => rfl
  | cons field fields ih => rw [members, ih, List.map_cons]

/-- What passes from the items of a list and the fields of an object to these holds for all values
that are made of others. -/
theorem induction {motive : Json → Prop} (null : motive .null) (bool : ∀ b, motive (.bool b))
    (integer : ∀ n, motive (.integer n)) (decimal : ∀ d, motive (.decimal d))
    (text : ∀ s, motive (.text s))
    (list : ∀ items, (∀ item ∈ items, motive item) → motive (.list items))
    (object : ∀ fields, (∀ field ∈ fields, motive field.2) → motive (.object fields)) :
    ∀ j, motive j
  | .null => null
  | .bool b => bool b
  | .integer n => integer n
  | .decimal d => decimal d
  | .text s => text s
  | .list items =>
    list items fun item _member => induction null bool integer decimal text list object item
  | .object fields =>
    object fields fun field _member =>
      induction null bool integer decimal text list object field.2
termination_by j => sizeOf j
decreasing_by
  · have := List.sizeOf_lt_of_mem _member
    simp only [Json.list.sizeOf_spec]
    omega
  · have := List.sizeOf_lt_of_mem _member
    obtain ⟨name, j⟩ := field
    simp only [Json.object.sizeOf_spec, Prod.mk.sizeOf_spec] at this ⊢
    omega

/-! ## No control characters -/

theorem isNumberChar_of_isDigit {c : Char} (digit : c.isDigit) : isNumberChar c := by
  simp [isNumberChar, digit]

theorem printable_of_isNumberChar {c : Char} (part : isNumberChar c) : 0x20 ≤ c.toNat := by
  simp only [isNumberChar, isExponentMark, Bool.or_eq_true, beq_iff_eq] at part
  rcases part with (((digit | rfl) | rfl) | rfl) | rfl | rfl
  · have := (Char.isDigit_iff_toNat.mp digit).1
    have zero : '0'.toNat = 0x30 := rfl
    omega
  all_goals decide

theorem isNumberChar_integerText {n : Int} {c : Char} (member : c ∈ integerText n) :
    isNumberChar c := by
  rcases List.mem_append.mp member with sign | digit
  · split at sign
    · rw [List.mem_singleton.mp sign]
      rfl
    · cases sign
  · exact isNumberChar_of_isDigit (isDigit_toDigits digit)

theorem isNumberChar_text {d : Decimal} {c : Char} (member : c ∈ d.text) : isNumberChar c := by
  rcases List.mem_append.mp member with front | behind
  · rcases List.mem_append.mp front with sign | digit
    · split at sign
      · rw [List.mem_singleton.mp sign]
        rfl
      · cases sign
    · exact isNumberChar_of_isDigit (isDigit_toDigits digit)
  · rcases List.mem_cons.mp behind with rfl | digit
    · rfl
    · exact isNumberChar_of_isDigit (isDigit_of_mem_fractionDigits digit)

theorem printable_renderItems :
    ∀ {items : List Json}, (∀ item ∈ items, Printable item.render) → Printable (renderItems items)
  | [], _ => printable_nil
  | [item], each => each item List.mem_cons_self
  | item :: next :: items, each => by
    have first := each item List.mem_cons_self
    have others : Printable (renderItems (next :: items)) :=
      printable_renderItems fun other later => each other (List.mem_cons_of_mem item later)
    exact first.append (.cons (by decide) others)

theorem printable_renderFields :
    ∀ {fields : List (String × Json)}, (∀ field ∈ fields, Printable field.2.render) →
      Printable (renderFields fields)
  | [], _ => printable_nil
  | [(name, j)], each => by
    have only : Printable j.render := each (name, j) List.mem_cons_self
    exact (printable_quote name).append (.cons (by decide) only)
  | (name, j) :: next :: fields, each => by
    have first : Printable j.render := each (name, j) List.mem_cons_self
    have others : Printable (renderFields (next :: fields)) :=
      printable_renderFields fun other later => each other (List.mem_cons_of_mem (name, j) later)
    exact .append (.append (printable_quote name) (.cons (by decide) first))
      (.cons (by decide) others)

/-- A text is one line, whatever strings are in it. -/
theorem printable_render (j : Json) : Printable j.render := by
  induction j using Json.induction with
  | null => simp [Printable, render]
  | bool b => cases b <;> simp [Printable, render]
  | integer n => exact fun c member => printable_of_isNumberChar (isNumberChar_integerText member)
  | decimal d => exact fun c member => printable_of_isNumberChar (isNumberChar_text member)
  | text s => exact printable_quote s
  | list items each =>
    exact .append (.cons (by decide) (printable_renderItems each))
      (.cons (by decide) printable_nil)
  | object fields each =>
    exact .append (.cons (by decide) (printable_renderFields each))
      (.cons (by decide) printable_nil)

/-! ## Tokens -/

/-- A number that came before would have come to its end. -/
def Delimited (rest : List Char) : Prop := ∀ c ∈ rest.head?, isNumberChar c = false

/-- These tokens are read from a text, and then those of whatever follows. -/
def Spells (cs : List Char) (tokens : List Token) : Prop :=
  ∀ rest, Delimited rest → tokens? (cs ++ rest) = (tokens? rest).map (tokens ++ ·)

theorem delimited_nil : Delimited [] := by simp [Delimited]

theorem tokens?_nil : tokens? [] = some [] := by
  rw [tokens?]
  rfl

theorem tokens?_cons {c : Char} {cs rest : List Char} {token : Token} (solid : isBlank c = false)
    (first : token? (c :: cs) = some (token, rest)) :
    tokens? (c :: cs) = (tokens? rest).map (token :: ·) := by
  have front : (c :: cs).dropWhile isBlank = c :: cs :=
    List.dropWhile_cons_of_neg (by simp [solid])
  rw [tokens?]
  split
  · next nothing =>
    rw [front] at nothing
    cases nothing
  · next d others same =>
    rw [front] at same
    cases same
    split
    · next absent =>
      rw [first] at absent
      cases absent
    · next found =>
      rw [first] at found
      cases found
      rfl

/-- A text that is read as one token. -/
theorem spells_singleton {c : Char} {cs : List Char} {token : Token} (solid : isBlank c = false)
    (first : ∀ rest, Delimited rest → token? (c :: (cs ++ rest)) = some (token, rest)) :
    Spells (c :: cs) [token] := by
  intro rest delimited
  rw [List.cons_append, tokens?_cons solid (first rest delimited)]
  rfl

theorem spells_null : Spells "null".toList [.null] :=
  spells_singleton rfl fun _ _ => rfl

theorem spells_bool (b : Bool) : Spells (if b then "true" else "false").toList [.bool b] := by
  cases b
  · exact spells_singleton rfl fun _ _ => rfl
  · exact spells_singleton rfl fun _ _ => rfl

theorem spells_quote (s : String) : Spells (quote s) [.text s] := by
  have shape : quote s = '"' :: (s.toList.flatMap escape ++ ['"']) := rfl
  rw [shape]
  apply spells_singleton rfl
  intro rest _
  rw [List.append_assoc, List.singleton_append, token?, if_pos rfl, string?_flatMap_escape]
  rfl

theorem solid_of_isNumberChar {c : Char} (part : isNumberChar c) : c ≠ '"' ∧ isBlank c = false := by
  simp only [isBlank, Bool.or_eq_false_iff, beq_eq_false_iff_ne]
  refine ⟨?_, ⟨⟨?_, ?_⟩, ?_⟩, ?_⟩ <;> rintro rfl <;> exact absurd part (by decide)

/-- A number is cut off where what follows it begins. -/
theorem Delimited.span {cs rest : List Char} (delimited : Delimited rest)
    (parts : ∀ c ∈ cs, isNumberChar c) :
    (cs ++ rest).takeWhile isNumberChar = cs ∧ (cs ++ rest).dropWhile isNumberChar = rest := by
  rw [List.takeWhile_append_of_pos parts, List.dropWhile_append_of_pos parts]
  cases rest with
  | nil => exact ⟨List.append_nil cs, rfl⟩
  | cons d rest => simp [delimited d rfl]

theorem spells_number {cs : List Char} {q : ℚ} (read : number? cs = some q)
    (parts : ∀ c ∈ cs, isNumberChar c) : Spells cs [.number q] := by
  cases cs with
  | nil => cases show none = some q from read
  | cons c cs =>
    have first := parts c List.mem_cons_self
    have others : ∀ d ∈ cs, isNumberChar d := fun d member =>
      parts d (List.mem_cons_of_mem c member)
    obtain ⟨unquoted, solid⟩ := solid_of_isNumberChar first
    apply spells_singleton solid
    intro rest delimited
    obtain ⟨taken, left⟩ := delimited.span others
    rw [token?, if_neg unquoted, if_pos first, taken, left, read]
    rfl

theorem spells_nil : Spells [] [] := by
  intro rest _
  rw [List.nil_append]
  cases tokens? rest <;> rfl

theorem of_symbol? {c : Char} {token : Token} (symbol : symbol? c = some token) :
    c ≠ '"' ∧ isBlank c = false ∧ isNumberChar c = false := by
  unfold symbol? at symbol
  split at symbol
  case h_7 => cases symbol
  all_goals decide

section

variable {c : Char} {cs ds : List Char} {token : Token} {ts us : List Token}

theorem Spells.cons_symbol (symbol : symbol? c = some token) (others : Spells ds us) :
    Spells (c :: ds) (token :: us) := by
  obtain ⟨unquoted, solid, free⟩ := of_symbol? symbol
  intro rest delimited
  have first : token? (c :: (ds ++ rest)) = some (token, ds ++ rest) := by
    rw [token?, if_neg unquoted, if_neg (by simp [free]), symbol]
  rw [List.cons_append, tokens?_cons solid first, others rest delimited, Option.map_map]
  rfl

/-- A symbol stands between two texts, so the first comes to its end. -/
theorem Spells.append_symbol (first : Spells cs ts) (symbol : symbol? c = some token)
    (others : Spells ds us) : Spells (cs ++ c :: ds) (ts ++ token :: us) := by
  intro rest delimited
  have ends : Delimited (c :: ds ++ rest) := by
    intro d front
    cases front
    exact (of_symbol? symbol).2.2
  rw [List.append_assoc, first _ ends, others.cons_symbol symbol rest delimited, Option.map_map]
  congr 1
  funext tokens
  simp

end

/-! ## Values -/

/-- Whoever expects a value takes these tokens for it and goes on. -/
def Means (tokens : List Token) (v : Value) : Prop :=
  ∀ stack more, expect stack (tokens ++ more) = after v stack more

/-- The text of a value is read as that value, wherever it stands. -/
def Reads (cs : List Char) (v : Value) : Prop := ∃ tokens, Spells cs tokens ∧ Means tokens v

/-- The items of a list, up to its end. -/
theorem exists_items : ∀ (item : Json) {items : List Json},
    (∀ j ∈ item :: items, Reads j.render j.value) →
      ∃ tokens, Spells (renderItems (item :: items)) tokens ∧ ∀ done stack more,
        expect (.list done :: stack) (tokens ++ .closeList :: more) =
          after (.list (done ++ values (item :: items))) stack more
  | item, [], each => by
    obtain ⟨tokens, spells, means⟩ := each item List.mem_cons_self
    refine ⟨tokens, spells, ?_⟩
    intro done stack more
    rw [means, after]
    rfl
  | item, next :: items, each => by
    obtain ⟨tokens, spells, means⟩ := each item List.mem_cons_self
    obtain ⟨others, spelled, meant⟩ :=
      exists_items next fun j later => each j (List.mem_cons_of_mem item later)
    refine ⟨tokens ++ .comma :: others, spells.append_symbol rfl spelled, ?_⟩
    intro done stack more
    rw [List.append_assoc, List.cons_append, means, after, meant, List.append_assoc]
    rfl

/-- The fields of an object behind the name of the first, up to its end. -/
theorem exists_fields : ∀ (name : String) (j : Json) {fields : List (String × Json)},
    (∀ field ∈ (name, j) :: fields, Reads field.2.render field.2.value) →
      ∃ tokens, Spells (renderFields ((name, j) :: fields)) (.text name :: .colon :: tokens) ∧
        ∀ done stack more,
          expect (.object done name :: stack) (tokens ++ .closeObject :: more) =
            after (.object (done ++ members ((name, j) :: fields))) stack more
  | name, j, [], each => by
    obtain ⟨tokens, spells, means⟩ := each (name, j) List.mem_cons_self
    refine ⟨tokens, (spells_quote name).append_symbol rfl spells, ?_⟩
    intro done stack more
    rw [means, after]
    rfl
  | name, j, (next, j') :: fields, each => by
    obtain ⟨tokens, spells, means⟩ := each (name, j) List.mem_cons_self
    obtain ⟨others, spelled, meant⟩ :=
      exists_fields next j' fun field later => each field (List.mem_cons_of_mem (name, j) later)
    have first : Spells (quote name ++ ':' :: j.render) (.text name :: .colon :: tokens) :=
      (spells_quote name).append_symbol rfl spells
    refine ⟨tokens ++ .comma :: .text next :: .colon :: others, first.append_symbol rfl spelled, ?_⟩
    intro done stack more
    rw [List.append_assoc, List.cons_append, List.cons_append, List.cons_append, means, after,
      meant, List.append_assoc]
    rfl

theorem reads_token {cs : List Char} {token : Token} {v : Value} (spells : Spells cs [token])
    (means : Means [token] v) : Reads cs v := ⟨_, spells, means⟩

/-- The text of every value is read as what the value says. -/
theorem reads_render (j : Json) : Reads j.render j.value := by
  induction j using Json.induction with
  | null => exact reads_token spells_null fun _ _ => rfl
  | bool b => exact reads_token (spells_bool b) fun _ _ => rfl
  | integer n =>
    have spells := spells_number (number?_integerText n) fun c => isNumberChar_integerText
    exact reads_token spells fun _ _ => rfl
  | decimal d =>
    have spells := spells_number (number?_text d) fun c => isNumberChar_text
    exact reads_token spells fun _ _ => rfl
  | text s => exact reads_token (spells_quote s) fun _ _ => rfl
  | list items each =>
    cases items with
    | nil =>
      have spells : Spells ['[', ']'] [.openList, .closeList] :=
        .cons_symbol rfl (.cons_symbol rfl spells_nil)
      exact ⟨_, spells, fun _ _ => rfl⟩
    | cons item items =>
      obtain ⟨tokens, spells, means⟩ := exists_items item each
      refine ⟨.openList :: (tokens ++ [.closeList]),
        .cons_symbol rfl (spells.append_symbol rfl spells_nil), ?_⟩
      intro stack more
      rw [List.cons_append, List.append_assoc, expect]
      exact means [] stack more
  | object fields each =>
    cases fields with
    | nil =>
      have spells : Spells ['{', '}'] [.openObject, .closeObject] :=
        .cons_symbol rfl (.cons_symbol rfl spells_nil)
      exact ⟨_, spells, fun _ _ => rfl⟩
    | cons field fields =>
      obtain ⟨name, j⟩ := field
      obtain ⟨tokens, spells, means⟩ := exists_fields name j each
      refine ⟨.openObject :: (.text name :: .colon :: tokens ++ [.closeObject]),
        .cons_symbol rfl (spells.append_symbol rfl spells_nil), ?_⟩
      intro stack more
      rw [List.cons_append, List.append_assoc]
      exact means [] stack more

theorem read?_toText (j : Json) : read? j.toText = some j.value := by
  obtain ⟨tokens, spells, means⟩ := reads_render j
  have whole := spells [] delimited_nil
  rw [List.append_nil, tokens?_nil, Option.map_some, List.append_nil] at whole
  have value := means [] []
  rw [List.append_nil] at value
  rw [read?, toText, String.toList_ofList, whole, Option.bind_some, value, after]

end SolarTelemetry.Json
