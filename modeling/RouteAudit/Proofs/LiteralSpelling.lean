import RouteAudit.Go.Literal
import RouteAudit.Proofs.PrefixJoin
import RouteAudit.Proofs.Utf8Decoding

/-! # String literals and what they spell

A character can be written in a string literal in up to three ways: as itself, by a short escape
such as `\n`, and by its code in four hexadecimal digits. `Spells s body` says that `body` writes
the characters of `s` one after the other, each in any of the ways it has. Reading takes one
spelling at a time (`stringBody?_of_spellsChar`), whatever stands behind it, and so it takes the
whole body (`stringBody?_of_spells`).

A body with a raw control character is refused by that reading. Its literal stands for the text
without the quotes around it, which is the body if that has no quotes of its own
(`withoutQuotes_literalText`). `literal_decodes_to_spelling` is the result for nodes. -/

namespace RouteAudit

open Go (Node)

/-! ### Spellings -/

namespace Json

/-- The letters of short escapes, each with its character. -/
def shortEscapes : List (Char × Char) :=
  [('"', '"'), ('\\', '\\'), ('b', '\x08'), ('f', '\x0c'), ('n', '\n'), ('r', '\r'), ('t', '\t')]

/-- The digit has this value below sixteen, in either case. -/
structure IsHexDigit (digit : Char) (value : Nat) : Prop where
  lt : value < 16
  eq : digit = value.digitChar ∨ digit = value.digitChar.toUpper

/-- The ways to write one character in a string literal. -/
inductive SpellsChar (c : Char) : List Char → Prop where
  | itself (quote : c ≠ '"') (backslash : c ≠ '\\') (control : 0x20 ≤ c.toNat) : SpellsChar c [c]
  | short {letter : Char} (listed : (letter, c) ∈ shortEscapes) : SpellsChar c ['\\', letter]
  | code {d₁ d₂ d₃ d₄ : Char} {x₁ x₂ x₃ x₄ : Nat} (h₁ : IsHexDigit d₁ x₁) (h₂ : IsHexDigit d₂ x₂)
      (h₃ : IsHexDigit d₃ x₃) (h₄ : IsHexDigit d₄ x₄)
      (value : c.toNat = ((x₁ * 16 + x₂) * 16 + x₃) * 16 + x₄) :
      SpellsChar c ['\\', 'u', d₁, d₂, d₃, d₄]

/-- The body of a literal writes these characters in turn. -/
inductive Spells : List Char → List Char → Prop where
  | nil : Spells [] []
  | cons {c : Char} {s word body : List Char} (char : SpellsChar c word) (rest : Spells s body) :
      Spells (c :: s) (word ++ body)

theorem length_le_of_spells {s body : List Char} (h : Spells s body) : s.length ≤ body.length := by
  induction h with
  | nil => exact Nat.le_refl 0
  | cons hchar _ ih => cases hchar <;> simp <;> omega

/-! ### One character -/

theorem hexValue?_of_isHexDigit {digit : Char} {value : Nat} (h : IsHexDigit digit value) :
    hexValue? digit = some value := by
  have hall : ∀ x < 16, hexValue? x.digitChar = some x ∧
      hexValue? x.digitChar.toUpper = some x := by decide
  rcases h.eq with rfl | rfl
  · exact (hall value h.lt).1
  · exact (hall value h.lt).2

theorem escape?_of_shortEscapes {letter c : Char} (h : (letter, c) ∈ shortEscapes)
    (rest : List Char) : escape? (letter :: rest) = some (c, rest) := by
  simp only [shortEscapes, List.mem_cons, Prod.mk.injEq, List.not_mem_nil, or_false] at h
  rcases h with ⟨rfl, rfl⟩ | ⟨rfl, rfl⟩ | ⟨rfl, rfl⟩ | ⟨rfl, rfl⟩ | ⟨rfl, rfl⟩ | ⟨rfl, rfl⟩ |
    ⟨rfl, rfl⟩ <;> rfl

theorem unitEscape?_of_hex4? {c : Char} {digits rest : List Char}
    (h : hex4? digits = some (c.toNat, rest)) : unitEscape? digits = some (c, rest) := by
  have hvalid : c.toNat < 0xD800 ∨ 0xDFFF < c.toNat ∧ c.toNat < 0x110000 := c.valid
  have hunit : Text.unitChar c.toNat = c := by
    rw [Text.unitChar, if_neg (by omega), Char.ofNat_toNat]
  have hpair : ∀ low, Text.pairChar? c.toNat low = none := by
    intro low
    rw [Text.pairChar?, if_neg (by omega)]
  unfold unitEscape?
  rw [h]
  dsimp only
  split
  · split
    · rw [hpair, hunit]
    · rw [hunit]
  · rw [hunit]

theorem stringBody?_of_spellsChar {c : Char} {word : List Char} (h : SpellsChar c word)
    (fuel : Nat) (done rest : List Char) :
    stringBody? (fuel + 1) done (word ++ rest) = stringBody? fuel (c :: done) rest := by
  cases h with
  | itself hquote hbackslash hcontrol =>
      rw [List.singleton_append, stringBody?, if_neg hquote, if_neg hbackslash, if_neg (by omega)]
  | short hlisted =>
      rw [List.cons_append, stringBody?, if_neg (by decide), if_pos rfl, List.singleton_append,
        escape?_of_shortEscapes hlisted]
  | @code d₁ d₂ d₃ d₄ x₁ x₂ x₃ x₄ h₁ h₂ h₃ h₄ hvalue =>
      have hdigits : hex4? (d₁ :: d₂ :: d₃ :: d₄ :: rest) = some (c.toNat, rest) := by
        simp [hex4?, hexValue?_of_isHexDigit h₁, hexValue?_of_isHexDigit h₂,
          hexValue?_of_isHexDigit h₃, hexValue?_of_isHexDigit h₄, hvalue]
      have hescape : escape? ('u' :: d₁ :: d₂ :: d₃ :: d₄ :: rest) = some (c, rest) :=
        unitEscape?_of_hex4? hdigits
      rw [List.cons_append, stringBody?, if_neg (by decide), if_pos rfl]
      simp only [List.cons_append, List.nil_append, hescape]

/-! ### Bodies -/

/-- Reading takes a whole body up to the closing quote. -/
theorem stringBody?_of_spells {s body : List Char} (h : Spells s body) {fuel : Nat}
    (hfuel : s.length < fuel) (done after : List Char) :
    stringBody? fuel done (body ++ '"' :: after) = some (done.reverse ++ s, after) := by
  induction h generalizing fuel done with
  | nil =>
      obtain ⟨fuel, rfl⟩ := Nat.exists_eq_add_one_of_ne_zero (Nat.ne_zero_of_lt hfuel)
      rw [List.nil_append, stringBody?, if_pos rfl, List.append_nil]
  | cons hchar _ ih =>
      obtain ⟨fuel, rfl⟩ := Nat.exists_eq_add_one_of_ne_zero (Nat.ne_zero_of_lt hfuel)
      rw [List.append_assoc, stringBody?_of_spellsChar hchar, ih (by simpa using hfuel)]
      simp

theorem stringBody?_of_control {body : List Char} (hquote : '"' ∉ body) (hbackslash : '\\' ∉ body)
    (hcontrol : ∃ c ∈ body, c.toNat < 0x20) (rest : List Char) :
    ∀ fuel done, stringBody? fuel done (body ++ rest) = none := by
  induction body with
  | nil => simp at hcontrol
  | cons d more ih =>
      rw [List.mem_cons, not_or] at hquote hbackslash
      rintro (_ | fuel) done
      · rfl
      · rw [List.cons_append, stringBody?, if_neg (Ne.symm hquote.1),
          if_neg (Ne.symm hbackslash.1)]
        split
        · rfl
        · rename_i hd
          obtain ⟨c, hc, hlt⟩ := hcontrol
          have hmore : c ∈ more := (List.mem_cons.mp hc).resolve_left fun he => hd (he ▸ hlt)
          exact ih hquote.2 hbackslash.2 ⟨c, hmore, hlt⟩ fuel (d :: done)

theorem spells_self {body : List Char} (hquote : '"' ∉ body) (hbackslash : '\\' ∉ body)
    (hcontrol : ∀ c ∈ body, 0x20 ≤ c.toNat) : Spells body body := by
  induction body with
  | nil => exact .nil
  | cons c rest ih =>
      rw [List.mem_cons, not_or] at hquote hbackslash
      rw [List.forall_mem_cons] at hcontrol
      exact .cons (.itself (Ne.symm hquote.1) (Ne.symm hbackslash.1) hcontrol.1)
        (ih hquote.2 hbackslash.2 hcontrol.2)

theorem readString?_quote (rest : List Char) :
    readString? ('"' :: rest) = (stringBody? (rest.length + 1) [] rest).bind fun r =>
      if (r.2.dropWhile isSpace).isEmpty then some r.1 else none := by
  unfold readString?
  rw [List.dropWhile_cons_of_neg (by decide)]
  split
  · rename_i tail heq
    obtain ⟨-, rfl⟩ := List.cons.inj heq
    cases stringBody? (rest.length + 1) [] rest <;> rfl
  · rename_i hother
    exact absurd rfl (hother rest)

/-- A literal that spells a text is read as that text. -/
theorem readString?_of_spells {s body : List Char} (h : Spells s body) :
    readString? ('"' :: body ++ ['"']) = some s := by
  have hfuel : s.length < (body ++ ['"']).length + 1 := by
    have := length_le_of_spells h
    simp
    omega
  rw [List.cons_append, readString?_quote, stringBody?_of_spells h hfuel]
  rfl

theorem readString?_of_control {body : List Char} (hquote : '"' ∉ body) (hbackslash : '\\' ∉ body)
    (hcontrol : ∃ c ∈ body, c.toNat < 0x20) : readString? ('"' :: body ++ ['"']) = none := by
  rw [List.cons_append, readString?_quote, stringBody?_of_control hquote hbackslash hcontrol]
  rfl

end Json

/-! ### Literals -/

namespace Go

/-- The text of a literal with this body. -/
def literalText (body : String) : String := "\"" ++ body ++ "\""

theorem toList_literalText (body : String) :
    (literalText body).toList = '"' :: body.toList ++ ['"'] := by
  rw [literalText, String.toList_append, String.toList_append]
  rfl

theorem withoutQuotes_literalText {body : String} (h : '"' ∉ body.toList) :
    withoutQuotes (literalText body) = body := by
  have hkept : ∀ c ∈ body.toList, (c == '"') = false := fun c hc =>
    beq_eq_false_iff_ne.mpr fun he => h (he ▸ hc)
  have hend := Text.dropEndWhile_of_getLast? (· == '"') fun c hc =>
    hkept c (List.mem_of_getLast? hc)
  apply String.ext
  rw [withoutQuotes, Text.toList_trim, toList_literalText]
  cases hbody : body.toList with
  | nil => rfl
  | cons c rest =>
      rw [hbody] at hkept hend
      rw [List.cons_append, List.dropWhile_cons_of_pos (by decide), List.cons_append,
        List.dropWhile_cons_of_neg (by simp [hkept c List.mem_cons_self]), ← List.cons_append,
        Text.dropEndWhile_concat, if_pos (by decide), hend]

theorem interpretedValue_of_spells {s body : String} (h : Json.Spells s.toList body.toList) :
    interpretedValue (literalText body) = s := by
  rw [interpretedValue, toList_literalText, Json.readString?_of_spells h]
  exact String.ofList_toList

/-- A body without quotes and escapes stands for itself: it is read so, or else its quotes are
taken off. -/
theorem interpretedValue_of_plain {body : String} (hquote : '"' ∉ body.toList)
    (hbackslash : '\\' ∉ body.toList) : interpretedValue (literalText body) = body := by
  by_cases hcontrol : ∃ c ∈ body.toList, c.toNat < 0x20
  · rw [interpretedValue, toList_literalText,
      Json.readString?_of_control hquote hbackslash hcontrol]
    exact withoutQuotes_literalText hquote
  · push Not at hcontrol
    exact interpretedValue_of_spells (Json.spells_self hquote hbackslash hcontrol)

theorem Node.stringValue?_of_interpreted {n : Node} (hkind : n.kind = .interpretedString) :
    n.stringValue? = some (interpretedValue n.text) := by
  rw [stringValue?, unparenthesize_of_kind (by rw [hkind]; decide)]
  dsimp only
  rw [hkind, literalValue?]

/-- **Literals decode to what they spell.** Let the text of an interpreted literal be decoded from
the bytes of a body between quotes.

* Where the body spells a text, each character as itself, by its short escape or by its code, the
  value of the literal is that text.
* Where the body has neither quotes nor escapes, the value is the body, control characters
  included. -/
theorem literal_decodes_to_spelling {n : Node} (hkind : n.kind = .interpretedString)
    {body : String} (htext : n.text = Text.decodeUtf8 (Text.utf8Bytes (literalText body))) :
    (∀ s : String, Json.Spells s.toList body.toList → n.stringValue? = some s) ∧
    ('"' ∉ body.toList → '\\' ∉ body.toList → n.stringValue? = some body) := by
  rw [Text.decodeUtf8_utf8Bytes] at htext
  rw [Node.stringValue?_of_interpreted hkind, htext]
  constructor
  · intro s hs
    rw [interpretedValue_of_spells hs]
  · intro hquote hbackslash
    rw [interpretedValue_of_plain hquote hbackslash]

/-- An interpreted literal with this body. -/
def interpretedLiteral (body : String) : Node :=
  .mk { kind := .interpretedString, text := literalText body } []

/-- A letter written by its code and by itself, a line break and a quote by their short escapes, and
a body with a raw tab. -/
theorem mixed_literals_decode :
    Json.Spells "/é\n\"é".toList "/\\u00E9\\n\\\"é".toList ∧
    (interpretedLiteral "/\\u00E9\\n\\\"é").stringValue? = some "/é\n\"é" ∧
    (interpretedLiteral "/a\tb").stringValue? = some "/a\tb" := by
  have hdecoded : ∀ body, (interpretedLiteral body).text =
      Text.decodeUtf8 (Text.utf8Bytes (literalText body)) := fun body =>
    (Text.decodeUtf8_utf8Bytes _).symm
  have hcode : Json.SpellsChar 'é' ['\\', 'u', '0', '0', 'E', '9'] :=
    @Json.SpellsChar.code 'é' '0' '0' 'E' '9' 0 0 14 9 ⟨by decide, by decide⟩
      ⟨by decide, by decide⟩ ⟨by decide, by decide⟩ ⟨by decide, by decide⟩ (by decide)
  have hspells : Json.Spells "/é\n\"é".toList "/\\u00E9\\n\\\"é".toList :=
    .cons (.itself (by decide) (by decide) (by decide)) <| .cons hcode <|
      .cons (.short (by decide)) <| .cons (.short (by decide)) <|
        .cons (.itself (by decide) (by decide) (by decide)) .nil
  exact ⟨hspells, (literal_decodes_to_spelling rfl (hdecoded _)).1 _ hspells,
    (literal_decodes_to_spelling rfl (hdecoded _)).2 (by decide) (by decide)⟩

end Go

end RouteAudit
