/-! # Lossy decoding of UTF-8

`decodeUtf8` reads bytes as UTF-8. A part that is no character is replaced by U+FFFD, once for each
longest start of a character that breaks off (or once for a byte that starts none). `runes` lists
the characters with the number of bytes each stands for. -/

namespace RouteAudit.Text

/-- What a first byte asks for: its payload, the number of bytes to follow, and the range of the
first of them. -/
structure Lead where
  payload : Nat
  tails : Nat
  low : Nat
  high : Nat

/-- The demand of a first byte beyond ASCII; `none` for a byte that starts no character. -/
def lead? (b : Nat) : Option Lead :=
  if b < 0xC2 then none
  else if b < 0xE0 then some ⟨b - 0xC0, 1, 0x80, 0xBF⟩
  else if b = 0xE0 then some ⟨0, 2, 0xA0, 0xBF⟩
  else if b = 0xED then some ⟨0xD, 2, 0x80, 0x9F⟩
  else if b < 0xF0 then some ⟨b - 0xE0, 2, 0x80, 0xBF⟩
  else if b = 0xF0 then some ⟨0, 3, 0x90, 0xBF⟩
  else if b < 0xF4 then some ⟨b - 0xF0, 3, 0x80, 0xBF⟩
  else if b = 0xF4 then some ⟨4, 3, 0x80, 0x8F⟩
  else none

/-- A character and the number of bytes it was read from. -/
structure Rune where
  char : Char
  width : Nat
deriving DecidableEq, Repr

/-- Bytes read after a first one: the payload unless one was missing or out of range, how many were
read, and the rest. -/
structure Tails where
  payload : Option Nat
  count : Nat
  rest : List UInt8

/-- Read up to `n` following bytes into the payload. -/
def readTails : (n low high payload count : Nat) → List UInt8 → Tails
  | 0, _, _, payload, count, bytes => ⟨some payload, count, bytes⟩
  | _ + 1, _, _, _, count, [] => ⟨none, count, []⟩
  | n + 1, low, high, payload, count, b :: rest =>
    if low ≤ b.toNat ∧ b.toNat ≤ high then
      readTails n 0x80 0xBF (payload * 64 + (b.toNat - 0x80)) (count + 1) rest
    else ⟨none, count, b :: rest⟩

theorem length_readTails (n low high payload count : Nat) (bytes : List UInt8) :
    (readTails n low high payload count bytes).rest.length ≤ bytes.length := by
  induction n generalizing low high payload count bytes with
  | zero => simp [readTails]
  | succ n ih =>
    cases bytes with
    | nil => simp [readTails]
    | cons b rest =>
      simp only [readTails]
      split
      · exact Nat.le_trans (ih ..) (by simp)
      · simp

/-- The replacement character. -/
def replacement : Char := Char.ofNat 0xFFFD

/-- The characters of the bytes before those already read, the latest first. -/
def decodeOnto (done : List Rune) : List UInt8 → List Rune
  | [] => done
  | b :: rest =>
    if b.toNat < 0x80 then decodeOnto (⟨Char.ofNat b.toNat, 1⟩ :: done) rest
    else match lead? b.toNat with
      | none => decodeOnto (⟨replacement, 1⟩ :: done) rest
      | some l =>
        let read := readTails l.tails l.low l.high l.payload 1 rest
        decodeOnto (⟨match read.payload with
          | some n => Char.ofNat n
          | none => replacement, read.count⟩ :: done) read.rest
termination_by bytes => bytes.length
decreasing_by
  · simp
  · simp
  · have := length_readTails l.tails l.low l.high l.payload 1 rest
    simp only [List.length_cons]
    omega

/-- The characters of bytes with their widths. -/
def runes (bytes : List UInt8) : List Rune := (decodeOnto [] bytes).reverse

/-- Bytes as text, every broken part replaced. -/
def decodeUtf8 (bytes : List UInt8) : String := String.ofList ((runes bytes).map Rune.char)

end RouteAudit.Text
