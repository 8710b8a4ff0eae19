import EntitySchema.Text.Hexadecimal

/-!
# Halves of surrogate pairs

An escape can name half of a surrogate pair, which is no character. A text therefore stands for a row of
codes, which are characters and halves: a half is held as the mark `U+10FFFF` and the private-use
character that stands `2 ^ 20` above it, the mark itself is held twice, and every other character is
held as itself. `codes` reads the codes back (`codes_charsOf`).

A text that holds a half has no encoding in bytes: `encode` refuses it at the first half and the halves
that follow it.
-/

namespace EntitySchema.Text

/-- The code of the last character, which begins what is held in two characters. -/
def markCode : Nat := 0x10FFFF

/-- The last character. -/
def mark : Char := Char.ofNat markCode

/-- The distance from a half to the private-use character that is held for it. -/
def halfShift : Nat := 0x100000

def isHighHalf (code : Nat) : Bool := 0xD800 ≤ code && code < 0xDC00

def isLowHalf (code : Nat) : Bool := 0xDC00 ≤ code && code < 0xE000

def isHalf (code : Nat) : Bool := isHighHalf code || isLowHalf code

/-- The code that two halves write together. -/
def joinHalves (high low : Nat) : Nat := 0x10000 + (high - 0xD800) * 1024 + (low - 0xDC00)

/-! ## Codes in texts -/

/-- The characters that hold a code. -/
def charsOf (code : Nat) : List Char :=
  if isHalf code then [mark, Char.ofNat (halfShift + code)]
  else if code = markCode then [mark, mark]
  else [Char.ofNat code]

/-- The half that a character stands for behind the mark. -/
def half? (c : Char) : Option Nat :=
  if halfShift ≤ c.toNat && isHalf (c.toNat - halfShift) then some (c.toNat - halfShift) else none

/-- The codes that characters hold. -/
def codes : List Char → List Nat
  | [] => []
  | [c] => [c.toNat]
  | c :: d :: rest =>
    if c = mark then
      match half? d with
      | some half => half :: codes rest
      | none => if d = mark then c.toNat :: codes rest else c.toNat :: codes (d :: rest)
    else c.toNat :: codes (d :: rest)

def codesOf (text : String) : List Nat := codes text.toList

/-- Characters that are all meant as characters, as a text holds them. -/
def heldChars (chars : List Char) : List Char := chars.flatMap fun c => charsOf c.toNat

/-- A text of characters, as a text that may hold halves. -/
def held (text : String) : String := String.ofList (heldChars text.toList)

/-- Whether a text holds a half, and so has no encoding in bytes. -/
def hasHalf (text : String) : Bool := (codesOf text).any isHalf

def characters? (text : String) : Option (List Char) :=
  if hasHalf text then none else some ((codesOf text).map Char.ofNat)

/-- The text in which every byte of a half's encoding is a replacement character. -/
def withoutHalves (text : String) : String :=
  String.ofList ((codesOf text).flatMap fun code =>
    if isHalf code then ['\ufffd', '\ufffd', '\ufffd'] else charsOf code)

def halfEscape (code : Nat) : List Char := '\\' :: 'u' :: hexDigits 4 code

/-- The characters of a text, with its halves as escapes. -/
def printable (text : String) : String :=
  String.ofList ((codesOf text).flatMap fun code =>
    if isHalf code then halfEscape code else [Char.ofNat code])

/-! ## Encodings -/

/-- Why a text has no encoding: the first half in it, its position, and the number of halves there. -/
structure EncodingFault where
  code : Nat
  position : Nat
  count : Nat
deriving DecidableEq

/-- The first halves of a text. -/
def encodingFault? (text : String) : Option EncodingFault :=
  let before := (codesOf text).takeWhile fun code => !isHalf code
  let rest := (codesOf text).drop before.length
  rest.head?.map fun first => ⟨first, before.length, (rest.takeWhile isHalf).length⟩

def encode (text : String) : Except EncodingFault ByteArray :=
  match encodingFault? text with
  | some fault => .error fault
  | none => .ok (String.ofList ((codesOf text).map Char.ofNat)).toUTF8

/-- The number of bytes of a text; none if it has no encoding. -/
def byteCount (text : String) : Nat :=
  match encode text with
  | .ok bytes => bytes.size
  | .error _ => 0

/-- The text that bytes encode. -/
def decode? (bytes : ByteArray) : Option String := (String.fromUTF8? bytes).map held

/-! ## Reading back -/

theorem toNat_ofNat_of_valid {code : Nat} (valid : code.isValidChar) :
    (Char.ofNat code).toNat = code :=
  (congrArg Char.toNat (dif_pos valid : Char.ofNat code = Char.ofNatAux code valid)).trans rfl

theorem toNat_mark : mark.toNat = markCode := toNat_ofNat_of_valid (by decide)

theorem half?_mark : half? mark = none := by
  simp only [half?, toNat_mark]
  decide

/-- The private-use character for a half is a character. -/
theorem isValidChar_halfShift {code : Nat} (h : isHalf code = true) :
    (halfShift + code).isValidChar := by
  simp only [isHalf, isHighHalf, isLowHalf, Bool.or_eq_true, Bool.and_eq_true,
    decide_eq_true_eq] at h
  right
  simp only [halfShift]
  omega

/-- A half is read back from the character behind the mark. -/
theorem half?_halfShift {code : Nat} (h : isHalf code = true) :
    half? (Char.ofNat (halfShift + code)) = some code := by
  simp [half?, toNat_ofNat_of_valid (isValidChar_halfShift h), h]

theorem codes_cons_of_ne_mark {c : Char} (h : c ≠ mark) (rest : List Char) :
    codes (c :: rest) = c.toNat :: codes rest := by
  cases rest with
  | nil => rfl
  | cons d rest => simp [codes, h]

/-- A code is read back from the characters that hold it, whatever follows them. -/
theorem codes_charsOf {code : Nat} (h : isHalf code = true ∨ code.isValidChar) (rest : List Char) :
    codes (charsOf code ++ rest) = code :: codes rest := by
  unfold charsOf
  split
  · rename_i half
    simp [codes, half?_halfShift half]
  · rename_i notHalf
    split
    · rename_i isMark
      simp [codes, half?_mark, toNat_mark, isMark]
    · rename_i notMark
      have valid : code.isValidChar := h.resolve_left notHalf
      have ne : Char.ofNat code ≠ mark := fun e =>
        notMark (by rw [← toNat_ofNat_of_valid valid, e, toNat_mark])
      simp [codes_cons_of_ne_mark ne, toNat_ofNat_of_valid valid]

end EntitySchema.Text
