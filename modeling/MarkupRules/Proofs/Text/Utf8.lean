import MarkupRules.Text.Utf8

/-!
Texts as bytes.

The bytes of a text are those of its characters one after the other. A line end is one byte, which
no other character has.
-/
namespace MarkupRules.Text

@[simp] theorem byteLength_nil : byteLength [] = 0 := rfl

/-- The sum over the characters may begin at any number, which is added to the bytes of the text. -/
theorem foldl_utf8Size (n : Nat) (cs : List Char) :
    cs.foldl (fun n c => n + c.utf8Size) n = n + byteLength cs := by
  induction cs generalizing n with
  | nil => rfl
  | cons c rest ih =>
    show rest.foldl _ (n + c.utf8Size) = n + rest.foldl _ (0 + c.utf8Size)
    rw [ih, ih]
    omega

@[simp] theorem byteLength_cons (c : Char) (rest : List Char) :
    byteLength (c :: rest) = c.utf8Size + byteLength rest := by
  show rest.foldl _ (0 + c.utf8Size) = _
  rw [foldl_utf8Size, Nat.zero_add]

/-- The bytes of two texts add up, because each character takes the same bytes wherever it stands.
-/
@[simp] theorem byteLength_append (front back : List Char) :
    byteLength (front ++ back) = byteLength front + byteLength back := by
  rw [byteLength, List.foldl_append]
  exact foldl_utf8Size _ back

/-- Each character takes at least one byte, so only the empty text has none. -/
theorem byteLength_pos {cs : List Char} (h : cs ≠ []) : 0 < byteLength cs := by
  obtain ⟨c, rest, rfl⟩ := List.exists_cons_of_ne_nil h
  have hFirst := c.utf8Size_pos
  rw [byteLength_cons]
  omega

/-- The bytes of a text. -/
def bytes (cs : List Char) : List UInt8 := cs.flatMap String.utf8EncodeChar

@[simp] theorem bytes_nil : bytes [] = [] := rfl

@[simp] theorem bytes_cons (c : Char) (rest : List Char) :
    bytes (c :: rest) = String.utf8EncodeChar c ++ bytes rest := List.flatMap_cons

theorem bytes_toList (text : String) : bytes text.toList = text.toUTF8.data.toList := by
  rw [String.toUTF8_eq_toByteArray, ← String.utf8Encode_toList, List.utf8Encode,
    List.data_toByteArray]
  rfl

/-- A byte with the top bit is no line end, so it may be skipped over when lines are counted. -/
theorem newline_ne_ofNat {n : Nat} (hTop : 128 ≤ n) (hByte : n < 256) : 10 ≠ UInt8.ofNat n := by
  intro hEq
  have hNat := congrArg UInt8.toNat hEq
  rw [UInt8.toNat_ofNat', Nat.mod_eq_of_lt hByte] at hNat
  have hTen : (10 : UInt8).toNat = 10 := rfl
  omega

/-- No character but the line end has its byte in its encoding, since the longer forms are made of
bytes with the top bit. -/
theorem newline_notMem_utf8EncodeChar {c : Char} (h : c ≠ '\n') :
    10 ∉ String.utf8EncodeChar c := by
  have hCode : c.val.toNat ≠ 10 := fun hTen => h (Char.ext (UInt32.toNat_inj.mp hTen))
  rw [String.utf8EncodeChar]
  generalize c.val.toNat = code at hCode
  have hHigh : 10 ≠ UInt8.ofNat (code / 4096 % 64 + 128) := newline_ne_ofNat (by omega) (by omega)
  have hMiddle : 10 ≠ UInt8.ofNat (code / 64 % 64 + 128) := newline_ne_ofNat (by omega) (by omega)
  have hLast : 10 ≠ UInt8.ofNat (code % 64 + 128) := newline_ne_ofNat (by omega) (by omega)
  split
  · intro hMem
    have hNat := congrArg UInt8.toNat (List.mem_singleton.mp hMem)
    rw [UInt8.toNat_ofNat', Nat.mod_eq_of_lt (by omega)] at hNat
    exact hCode hNat.symm
  · split
    · have hFirst : 10 ≠ UInt8.ofNat (code / 64 % 32 + 192) :=
        newline_ne_ofNat (by omega) (by omega)
      simp only [List.mem_cons, hFirst, hLast, List.not_mem_nil, or_self, not_false_eq_true]
    · split
      · have hFirst : 10 ≠ UInt8.ofNat (code / 4096 % 16 + 224) :=
          newline_ne_ofNat (by omega) (by omega)
        simp only [List.mem_cons, hFirst, hMiddle, hLast, List.not_mem_nil, or_self,
          not_false_eq_true]
      · have hFirst : 10 ≠ UInt8.ofNat (code / 262144 % 8 + 240) :=
          newline_ne_ofNat (by omega) (by omega)
        simp only [List.mem_cons, hFirst, hHigh, hMiddle, hLast, List.not_mem_nil, or_self,
          not_false_eq_true]

end MarkupRules.Text
