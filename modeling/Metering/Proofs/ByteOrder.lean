import Mathlib.Data.UInt

/-!
# Texts in the order of their bytes

Texts are compared by code points, and a database that keeps them in UTF-8
compares their bytes. The two orders are one: a greater code point never has
fewer bytes, the first byte tells their number, and the bytes that follow are
the digits of the code point.

* `continued`: a code point as one byte with the leading digits, and one byte
  for each digit that follows;
* `continued_append_lt`: of two code points with as many bytes, the greater one
  has the greater bytes;
* `lt_iff_bytes_lt`: the order of texts is that of their bytes.
-/

namespace Metering.Text

/-- The bytes of a text. -/
def bytes (s : String) : List UInt8 := s.toByteArray.data.toList

theorem bytes_eq (s : String) : bytes s = s.toList.flatMap String.utf8EncodeChar := by
  obtain ⟨l, rfl⟩ := s.exists_eq_ofList
  rw [bytes, String.toByteArray_ofList, List.utf8Encode, List.toList_data_toByteArray,
    String.toList_ofList]

/-! ### The bytes of a code point -/

/-- The leading digits of a number, without the last `k` digits of six bits. -/
def leading : Nat → Nat → Nat
  | 0, v => v
  | k + 1, v => leading k (v / 64)

/-- A number in a byte for its leading digits, marked by `tag`, and `k` bytes for
    the digits that follow. -/
def continued (tag : Nat) : Nat → Nat → List UInt8
  | 0, v => [UInt8.ofNat (v + tag)]
  | k + 1, v => continued tag k (v / 64) ++ [UInt8.ofNat (v % 64 + 0x80)]

theorem exists_continued_eq_cons (tag k v : Nat) :
    ∃ rest, continued tag k v = UInt8.ofNat (leading k v + tag) :: rest := by
  induction k generalizing v with
  | zero => exact ⟨[], rfl⟩
  | succ k ih =>
    obtain ⟨rest, hrest⟩ := ih (v / 64)
    exact ⟨_, by rw [continued, hrest, leading, List.cons_append]⟩

/-- The mark of the leading byte of a code point, and the number of bytes that follow. -/
def shape (v : Nat) : Nat × Nat :=
  if v ≤ 0x7f then (0, 0)
  else if v ≤ 0x7ff then (0xc0, 1)
  else if v ≤ 0xffff then (0xe0, 2)
  else (0xf0, 3)

/-- The leading byte of a code point. -/
def leadingByte (v : Nat) : Nat := leading (shape v).2 v + (shape v).1

theorem utf8EncodeChar_eq (c : Char) :
    String.utf8EncodeChar c =
      continued (shape c.val.toNat).1 (shape c.val.toNat).2 c.val.toNat := by
  have hvalid := c.valid
  simp only [UInt32.isValidChar, Nat.isValidChar] at hvalid
  simp only [String.utf8EncodeChar, shape]
  split
  · rfl
  split
  · have hlead : c.val.toNat / 64 % 0x20 = c.val.toNat / 64 := by omega
    rw [hlead]
    rfl
  split
  · have hlead : c.val.toNat / 4096 % 0x10 = c.val.toNat / 64 / 64 := by omega
    rw [hlead]
    rfl
  · have hlead : c.val.toNat / 262144 % 0x08 = c.val.toNat / 64 / 64 / 64 := by omega
    have hnext : c.val.toNat / 4096 = c.val.toNat / 64 / 64 := by omega
    rw [hlead, hnext]
    rfl

/-- A greater code point has as many bytes, or a greater leading byte. -/
theorem shape_eq_or_leadingByte_lt {m n : Nat} (h : m < n) :
    shape m = shape n ∨ leadingByte m < leadingByte n := by
  simp only [leadingByte, shape]
  repeat' split
  all_goals first
    | exact .inl rfl
    | right; simp only [leading]; omega

theorem leadingByte_lt {n : Nat} (h : n < 0x110000) : leadingByte n < 256 := by
  simp only [leadingByte, shape]
  repeat' split
  all_goals simp only [leading]; omega

/-! ### Comparing code points -/

theorem ofNat_lt_ofNat {m n : Nat} (h : m < n) (hn : n < 256) :
    UInt8.ofNat m < UInt8.ofNat n := by
  rw [UInt8.lt_iff_toNat_lt, UInt8.toNat_ofNat', UInt8.toNat_ofNat']
  omega

/-- Of two code points with as many bytes, the greater one has the greater bytes. -/
theorem continued_append_lt {tag k m n : Nat} (h : m < n) (hn : leading k n + tag < 256)
    (l l' : List UInt8) : continued tag k m ++ l < continued tag k n ++ l' := by
  induction k generalizing m n l l' with
  | zero => exact List.Lex.rel (ofNat_lt_ofNat (Nat.add_lt_add_right h tag) hn)
  | succ k ih =>
    rw [continued, continued, List.append_assoc, List.append_assoc]
    rcases Nat.lt_or_ge (m / 64) (n / 64) with hlt | hge
    · exact ih hlt hn _ _
    · -- The digits before agree, so the last one decides.
      have heq : m / 64 = n / 64 := by omega
      rw [heq]
      exact List.append_left_lt (List.Lex.rel (ofNat_lt_ofNat (by omega) (by omega)))

/-- The bytes of a greater character are greater, whatever follows. -/
theorem utf8EncodeChar_append_lt {c d : Char} (h : c < d) (l l' : List UInt8) :
    String.utf8EncodeChar c ++ l < String.utf8EncodeChar d ++ l' := by
  have hlt : c.val.toNat < d.val.toNat := h
  have hvalid := d.valid
  simp only [UInt32.isValidChar, Nat.isValidChar] at hvalid
  have hbyte : leadingByte d.val.toNat < 256 := leadingByte_lt (by omega)
  rw [utf8EncodeChar_eq, utf8EncodeChar_eq]
  -- The number of bytes is the same, or the leading bytes differ already.
  rcases shape_eq_or_leadingByte_lt hlt with hshape | hlead
  · rw [hshape]
    exact continued_append_lt hlt hbyte l l'
  · obtain ⟨rest, hrest⟩ := exists_continued_eq_cons (shape c.val.toNat).1 _ c.val.toNat
    obtain ⟨rest', hrest'⟩ := exists_continued_eq_cons (shape d.val.toNat).1 _ d.val.toNat
    rw [hrest, hrest', List.cons_append, List.cons_append]
    exact List.Lex.rel (ofNat_lt_ofNat hlead hbyte)

/-! ### Comparing texts -/

theorem flatMap_utf8EncodeChar_lt {cs ds : List Char} (h : cs < ds) :
    cs.flatMap String.utf8EncodeChar < ds.flatMap String.utf8EncodeChar := by
  -- The comparison ends at the end of the first text or at the first difference.
  induction h with
  | @nil d ds =>
    obtain ⟨rest, hrest⟩ := exists_continued_eq_cons (shape d.val.toNat).1 _ d.val.toNat
    rw [List.flatMap_cons, utf8EncodeChar_eq, hrest]
    exact List.Lex.nil
  | @cons c cs ds _ ih =>
    rw [List.flatMap_cons, List.flatMap_cons]
    exact List.append_left_lt ih
  | @rel c cs d ds hlt =>
    rw [List.flatMap_cons, List.flatMap_cons]
    exact utf8EncodeChar_append_lt hlt _ _

/-- A text comes before another exactly if its bytes do. -/
theorem lt_iff_bytes_lt (s t : String) : s < t ↔ bytes s < bytes t := by
  have hbytes : ∀ {s t : String}, s < t → bytes s < bytes t := fun {s t} h => by
    rw [bytes_eq, bytes_eq]
    exact flatMap_utf8EncodeChar_lt h
  refine ⟨hbytes, fun h => ?_⟩
  -- Texts that do not come before another come after it, or are the same.
  rcases Std.lt_trichotomy s t with hlt | rfl | hgt
  · exact hlt
  · exact absurd h (Std.lt_irrefl)
  · exact absurd (hbytes hgt) (Std.not_lt.2 (Std.le_of_lt h))

end Metering.Text
