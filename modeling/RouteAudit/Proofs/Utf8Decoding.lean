import RouteAudit.Text.Utf8

/-! # Decoding what was encoded

`decodeUtf8` replaces broken bytes and reads all others as they are meant: the bytes of a text are
decoded to that text (`decodeUtf8_utf8Bytes`). The first byte of a character carries its highest
bits and asks for the right number of bytes to follow. The range it allows for the next of them is
narrower than usual after four first bytes, and there it leaves out what no character has
(`lead?_of_three`, `lead?_of_four`). -/

namespace RouteAudit.Text

/-- The bytes of a text. -/
def utf8Bytes (s : String) : List UInt8 := s.toList.flatMap String.utf8EncodeChar

/-! ### First bytes -/

theorem lead?_of_two {v : Nat} (hlow : 0x80 ≤ v) (hhigh : v < 0x800) :
    lead? (v / 64 % 32 + 192) = some ⟨v / 64, 1, 0x80, 0xBF⟩ := by
  unfold lead?
  rw [if_neg (by omega), if_pos (by omega), show v / 64 % 32 + 192 - 0xC0 = v / 64 by omega]

theorem lead?_of_three {v : Nat} (hlow : 0x800 ≤ v) (hhigh : v < 0x10000)
    (hvalid : v < 0xD800 ∨ 0xDFFF < v) :
    ∃ low high, lead? (v / 4096 % 16 + 224) = some ⟨v / 4096, 2, low, high⟩ ∧
      low ≤ v / 64 % 64 + 128 ∧ v / 64 % 64 + 128 ≤ high := by
  unfold lead?
  rw [if_neg (by omega), if_neg (by omega)]
  by_cases hfirst : v / 4096 = 0
  · rw [if_pos (by omega)]
    exact ⟨0xA0, 0xBF, by rw [hfirst], by omega, by omega⟩
  · rw [if_neg (by omega)]
    by_cases hsurrogate : v / 4096 = 0xD
    · rw [if_pos (by omega)]
      exact ⟨0x80, 0x9F, by rw [hsurrogate], by omega, by omega⟩
    · rw [if_neg (by omega), if_pos (by omega),
        show v / 4096 % 16 + 224 - 0xE0 = v / 4096 by omega]
      exact ⟨0x80, 0xBF, rfl, by omega, by omega⟩

theorem lead?_of_four {v : Nat} (hlow : 0x10000 ≤ v) (hhigh : v < 0x110000) :
    ∃ low high, lead? (v / 262144 % 8 + 240) = some ⟨v / 262144, 3, low, high⟩ ∧
      low ≤ v / 4096 % 64 + 128 ∧ v / 4096 % 64 + 128 ≤ high := by
  unfold lead?
  rw [if_neg (by omega), if_neg (by omega), if_neg (by omega), if_neg (by omega),
    if_neg (by omega)]
  by_cases hfirst : v / 262144 = 0
  · rw [if_pos (by omega)]
    exact ⟨0x90, 0xBF, by rw [hfirst], by omega, by omega⟩
  · rw [if_neg (by omega)]
    by_cases hlast : v / 262144 = 4
    · rw [if_neg (by omega), if_pos (by omega)]
      exact ⟨0x80, 0x8F, by rw [hlast], by omega, by omega⟩
    · rw [if_pos (by omega), show v / 262144 % 8 + 240 - 0xF0 = v / 262144 by omega]
      exact ⟨0x80, 0xBF, rfl, by omega, by omega⟩

/-! ### Characters -/

theorem readTails_cons {n low high payload count : Nat} {b : UInt8} {rest : List UInt8} {x : Nat}
    (hb : b.toNat = x + 128) (hlow : low ≤ x + 128) (hhigh : x + 128 ≤ high) :
    readTails (n + 1) low high payload count (b :: rest) =
      readTails n 0x80 0xBF (payload * 64 + x) (count + 1) rest := by
  rw [readTails, if_pos (by omega), hb, show x + 128 - 0x80 = x by omega]

theorem decodeOnto_of_lead {done : List Rune} {b : UInt8} {rest rest' : List UInt8} {l : Lead}
    {n count : Nat} (hb : 0x80 ≤ b.toNat) (hl : lead? b.toNat = some l)
    (hread : readTails l.tails l.low l.high l.payload 1 rest = ⟨some n, count, rest'⟩) :
    decodeOnto done (b :: rest) = decodeOnto (⟨Char.ofNat n, count⟩ :: done) rest' := by
  rw [decodeOnto, if_neg (by omega), hl]
  dsimp only
  rw [hread]

theorem toNat_ofNat {x : Nat} (h : x < 256) : (UInt8.ofNat x).toNat = x := by
  simp [Nat.mod_eq_of_lt h]

section characters
variable {v : Nat} (done : List Rune) (rest : List UInt8)

theorem decodeOnto_two (hlow : 0x80 ≤ v) (hhigh : v < 0x800) :
    decodeOnto done (UInt8.ofNat (v / 64 % 32 + 192) :: UInt8.ofNat (v % 64 + 128) :: rest) =
      decodeOnto (⟨Char.ofNat v, 2⟩ :: done) rest := by
  have hfirst := toNat_ofNat (show v / 64 % 32 + 192 < 256 by omega)
  have hlast := toNat_ofNat (show v % 64 + 128 < 256 by omega)
  refine decodeOnto_of_lead (by omega) (by rw [hfirst, lead?_of_two hlow hhigh]) ?_
  dsimp only
  rw [readTails_cons hlast (by omega) (by omega), readTails, show v / 64 * 64 + v % 64 = v by omega]

theorem decodeOnto_three (hlow : 0x800 ≤ v) (hhigh : v < 0x10000)
    (hvalid : v < 0xD800 ∨ 0xDFFF < v) :
    decodeOnto done (UInt8.ofNat (v / 4096 % 16 + 224) :: UInt8.ofNat (v / 64 % 64 + 128) ::
        UInt8.ofNat (v % 64 + 128) :: rest) =
      decodeOnto (⟨Char.ofNat v, 3⟩ :: done) rest := by
  have hfirst := toNat_ofNat (show v / 4096 % 16 + 224 < 256 by omega)
  have hmiddle := toNat_ofNat (show v / 64 % 64 + 128 < 256 by omega)
  have hlast := toNat_ofNat (show v % 64 + 128 < 256 by omega)
  obtain ⟨low, high, hlead, hmin, hmax⟩ := lead?_of_three hlow hhigh hvalid
  refine decodeOnto_of_lead (by omega) (by rw [hfirst, hlead]) ?_
  rw [readTails_cons hmiddle hmin hmax, readTails_cons hlast (by omega) (by omega), readTails,
    show (v / 4096 * 64 + v / 64 % 64) * 64 + v % 64 = v by omega]

theorem decodeOnto_four (hlow : 0x10000 ≤ v) (hhigh : v < 0x110000) :
    decodeOnto done (UInt8.ofNat (v / 262144 % 8 + 240) :: UInt8.ofNat (v / 4096 % 64 + 128) ::
        UInt8.ofNat (v / 64 % 64 + 128) :: UInt8.ofNat (v % 64 + 128) :: rest) =
      decodeOnto (⟨Char.ofNat v, 4⟩ :: done) rest := by
  have hfirst := toNat_ofNat (show v / 262144 % 8 + 240 < 256 by omega)
  have hsecond := toNat_ofNat (show v / 4096 % 64 + 128 < 256 by omega)
  have hthird := toNat_ofNat (show v / 64 % 64 + 128 < 256 by omega)
  have hlast := toNat_ofNat (show v % 64 + 128 < 256 by omega)
  obtain ⟨low, high, hlead, hmin, hmax⟩ := lead?_of_four hlow hhigh
  refine decodeOnto_of_lead (by omega) (by rw [hfirst, hlead]) ?_
  rw [readTails_cons hsecond hmin hmax, readTails_cons hthird (by omega) (by omega),
    readTails_cons hlast (by omega) (by omega), readTails,
    show ((v / 262144 * 64 + v / 4096 % 64) * 64 + v / 64 % 64) * 64 + v % 64 = v by omega]

theorem decodeOnto_utf8EncodeChar (c : Char) :
    ∃ width, decodeOnto done (String.utf8EncodeChar c ++ rest) =
      decodeOnto (⟨c, width⟩ :: done) rest := by
  have hself : Char.ofNat c.val.toNat = c := Char.ofNat_toNat c
  have hvalid : c.val.toNat < 0xD800 ∨ 0xDFFF < c.val.toNat ∧ c.val.toNat < 0x110000 := c.valid
  unfold String.utf8EncodeChar
  generalize c.val.toNat = v at hself hvalid
  dsimp only
  rw [← hself]
  split
  · refine ⟨1, ?_⟩
    rw [List.singleton_append, decodeOnto, toNat_ofNat (by omega), if_pos (by omega)]
  · split
    · exact ⟨2, decodeOnto_two done rest (by omega) (by omega)⟩
    · split
      · exact ⟨3, decodeOnto_three done rest (by omega) (by omega) (by omega)⟩
      · exact ⟨4, decodeOnto_four done rest (by omega) (by omega)⟩

end characters

/-! ### Texts -/

theorem map_char_decodeOnto (s : List Char) (done : List Rune) :
    (decodeOnto done (s.flatMap String.utf8EncodeChar)).map Rune.char =
      s.reverse ++ done.map Rune.char := by
  induction s generalizing done with
  | nil =>
      rw [List.flatMap_nil, decodeOnto]
      rfl
  | cons c rest ih =>
      obtain ⟨width, hstep⟩ :=
        decodeOnto_utf8EncodeChar done (rest.flatMap String.utf8EncodeChar) c
      rw [List.flatMap_cons, hstep, ih]
      simp

/-- The bytes of a text are decoded to it. -/
theorem decodeUtf8_utf8Bytes (s : String) : decodeUtf8 (utf8Bytes s) = s := by
  rw [decodeUtf8, runes, utf8Bytes, List.map_reverse, map_char_decodeOnto]
  simp

end RouteAudit.Text
