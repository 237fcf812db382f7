/-!
# Classes of characters

White space separates words: the characters with the white space property, and the four information
separators `U+001C` to `U+001F`. Decimal digits come in ten consecutive characters for each script
that writes decimal numbers, so the class of all of them is given by the characters for zero.

A text may hold surrogates, the code points `U+D800` to `U+DFFF`, outside of pairs, and is then no
text that can be encoded. `Char` has no room for them. The last 2048 characters, which are for
private use, stand in for them here, so texts that hold these characters themselves are not
modelled.

## Main results

* `strip_eq_self`: text that neither starts nor ends with white space is its own stripped form.
* `isBlank_head?_strip`, `isBlank_getLast?_strip`: stripping leaves no white space at the ends.
* `strip_strip`: stripped text is its own stripped form.
-/

namespace TableFlow.Text

/-- The ranges of the code points of white space. -/
def blankRanges : List (Nat × Nat) := [
  (0x9, 0xD), (0x1C, 0x20), (0x85, 0x85), (0xA0, 0xA0), (0x1680, 0x1680), (0x2000, 0x200A),
  (0x2028, 0x2029), (0x202F, 0x202F), (0x205F, 0x205F), (0x3000, 0x3000)]

/-- Tells if a character is white space. -/
def isBlank (c : Char) : Bool :=
  blankRanges.any fun (first, last) => first ≤ c.toNat && c.toNat ≤ last

/-- The characters after the white space at the start. -/
def stripLeft (cs : List Char) : List Char := cs.dropWhile isBlank

/-- The characters before the white space at the end. -/
def stripRight (cs : List Char) : List Char := (cs.reverse.dropWhile isBlank).reverse

/-- Removes white space at both ends. -/
def strip (cs : List Char) : List Char := stripRight (stripLeft cs)

theorem stripRight_eq_self {cs : List Char} (h : ∀ c, cs.getLast? = some c → isBlank c = false) :
    stripRight cs = cs := by
  unfold stripRight
  cases hReverse : cs.reverse with
  | nil => simp [List.reverse_eq_nil_iff.1 hReverse]
  | cons c rest =>
    have hLast : cs.getLast? = some c := by
      rw [← List.head?_reverse, hReverse, List.head?_cons]
    rw [List.dropWhile_cons_of_neg (by simp [h c hLast]), ← hReverse, List.reverse_reverse]

/-- Text without white space at its ends is its own stripped form. -/
theorem strip_eq_self {cs : List Char} (hFirst : ∀ c, cs.head? = some c → isBlank c = false)
    (hLast : ∀ c, cs.getLast? = some c → isBlank c = false) : strip cs = cs := by
  have hLeft : stripLeft cs = cs := by
    unfold stripLeft
    cases cs with
    | nil => rfl
    | cons c rest => exact List.dropWhile_cons_of_neg (by simp [hFirst c rfl])
  rw [strip, hLeft, stripRight_eq_self hLast]

theorem stripRight_isPrefix (cs : List Char) : stripRight cs <+: cs := by
  have hSuffix : cs.reverse.dropWhile isBlank <:+ cs.reverse := List.dropWhile_suffix _
  rw [← List.reverse_prefix, List.reverse_reverse] at hSuffix
  exact hSuffix

theorem mem_of_mem_strip {cs : List Char} {c : Char} (h : c ∈ strip cs) : c ∈ cs :=
  (List.dropWhile_sublist _).subset ((stripRight_isPrefix _).subset h)

theorem isBlank_head?_strip {cs : List Char} {c : Char} (h : (strip cs).head? = some c) :
    isBlank c = false := by
  obtain ⟨behind, hBehind⟩ := stripRight_isPrefix (stripLeft cs)
  rw [strip] at h
  have hHead : (stripLeft cs).head? = some c := by
    rw [← hBehind, List.head?_append, h]
    rfl
  have hStop := List.head?_dropWhile_not isBlank cs
  rw [stripLeft] at hHead
  rw [hHead] at hStop
  simpa using hStop

theorem isBlank_getLast?_strip {cs : List Char} {c : Char} (h : (strip cs).getLast? = some c) :
    isBlank c = false := by
  have hStop := List.head?_dropWhile_not isBlank (stripLeft cs).reverse
  rw [strip, stripRight, List.getLast?_reverse] at h
  rw [h] at hStop
  simpa using hStop

/-- Stripped text is its own stripped form. -/
theorem strip_strip (cs : List Char) : strip (strip cs) = strip cs :=
  strip_eq_self (fun _ hFirst => isBlank_head?_strip hFirst)
    fun _ hLast => isBlank_getLast?_strip hLast

/-! ## Decimal digits of all scripts -/

/-- The code points of the characters for zero. -/
def zeroCodePoints : List Nat := [
  0x30, 0x660, 0x6F0, 0x7C0, 0x966, 0x9E6, 0xA66, 0xAE6, 0xB66, 0xBE6, 0xC66, 0xCE6, 0xD66, 0xDE6,
  0xE50, 0xED0, 0xF20, 0x1040, 0x1090, 0x17E0, 0x1810, 0x1946, 0x19D0, 0x1A80, 0x1A90, 0x1B50,
  0x1BB0, 0x1C40, 0x1C50, 0xA620, 0xA8D0, 0xA900, 0xA9D0, 0xA9F0, 0xAA50, 0xABF0, 0xFF10, 0x104A0,
  0x10D30, 0x11066, 0x110F0, 0x11136, 0x111D0, 0x112F0, 0x11450, 0x114D0, 0x11650, 0x116C0, 0x11730,
  0x118E0, 0x11950, 0x11C50, 0x11D50, 0x11DA0, 0x16A60, 0x16AC0, 0x16B50, 0x1D7CE, 0x1D7D8, 0x1D7E2,
  0x1D7EC, 0x1D7F6, 0x1E140, 0x1E2F0, 0x1E950, 0x1FBF0]

/-- The value of a decimal digit of any script. -/
def decimalDigit? (c : Char) : Option Nat :=
  (zeroCodePoints.find? fun first => first ≤ c.toNat && c.toNat < first + 10).map (c.toNat - ·)

/-- Tells if a character is a decimal digit of some script. -/
def isDecimalDigit (c : Char) : Bool := (decimalDigit? c).isSome

/-! ## Unpaired surrogates -/

/-- The code point of the first surrogate. -/
def firstSurrogate : Nat := 0xD800

/-- The code point of the character that stands in for the first surrogate. -/
def firstStandIn : Nat := 0x10F800

/-- The character that stands in for a surrogate. -/
def ofSurrogate (code : Nat) : Char := Char.ofNat (firstStandIn + (code - firstSurrogate))

/-- Tells if a character stands in for a surrogate. -/
def isSurrogate (c : Char) : Bool := firstStandIn ≤ c.toNat

/-- The code point of a character. -/
def codePoint (c : Char) : Nat :=
  if isSurrogate c then firstSurrogate + (c.toNat - firstStandIn) else c.toNat

/-- Tells if a text can be encoded: it holds no surrogates. -/
def isEncodable (cs : List Char) : Bool := cs.all (!isSurrogate ·)

/-- Different characters have different code points, as no character has that of a surrogate. -/
theorem codePoint_inj {a b : Char} : codePoint a = codePoint b ↔ a = b := by
  refine ⟨fun h => ?_, congrArg codePoint⟩
  have hRoom (c : Char) : c.toNat < firstSurrogate ∨ firstSurrogate + 2048 ≤ c.toNat := by
    have := c.valid
    simp only [firstSurrogate, Char.toNat, UInt32.isValidChar, Nat.isValidChar] at *
    omega
  have hLast (c : Char) : c.toNat < firstStandIn + 2048 := by
    have := c.valid
    simp only [firstStandIn, Char.toNat, UInt32.isValidChar, Nat.isValidChar] at *
    omega
  have hRoomA := hRoom a
  have hRoomB := hRoom b
  have hLastA := hLast a
  have hLastB := hLast b
  apply Char.toNat_inj.1
  simp only [codePoint, isSurrogate, decide_eq_true_eq] at h
  split at h <;> split at h <;> omega

end TableFlow.Text
