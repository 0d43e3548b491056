import Mathlib
import DatastoreAccess.Text.Utf8
/-!
# Proofs.Text.Encoding — the bytes of a text read back

A character takes one to four bytes.  The first says how many there are and holds the highest bits; each of the others
holds six more.  Read in order they give the character again (`scan_char`), so the bytes of a text give the text
(`decode?_encode`).  Up to 0x7F a character is its own byte.  A number is written in digits, and these are its value.
-/
namespace DatastoreAccess.Text

/-! ## One byte -/

theorem utf8EncodeChar_of_ascii {c : Char} (h : c.toNat < 0x80) :
    String.utf8EncodeChar c = [UInt8.ofNat c.toNat] ∧ (UInt8.ofNat c.toNat).toNat = c.toNat := by
  have hsize : c.utf8Size = 1 := by
    rw [Char.utf8Size_eq_one_iff, UInt32.le_iff_toNat_le]
    exact Nat.le_of_lt_succ h
  exact ⟨String.utf8EncodeChar_eq_singleton hsize, UInt8.toNat_ofNat_of_lt' (by simp only [UInt8.size]; omega)⟩

theorem toNat_ofNat_of_ascii {n : Nat} (h : n < 0x80) : (Char.ofNat n).toNat = n := by
  have hvalid : n.isValidChar := .inl (by omega)
  rw [Char.ofNat, dif_pos hvalid]
  rfl

theorem encode_of_ascii {cs : List Char} (h : ∀ c ∈ cs, c.toNat < 0x80) :
    encode cs = cs.map fun c => UInt8.ofNat c.toNat := by
  rw [encode, List.map_eq_flatMap]
  exact List.flatMap_congr fun c hc => (utf8EncodeChar_of_ascii (h c hc)).1

theorem le_of_mem_utf8EncodeChar {c : Char} (h : 0x80 ≤ c.toNat) {b : UInt8} (hb : b ∈ String.utf8EncodeChar c) :
    0x80 ≤ b.toNat := by
  have high {n : Nat} (hn : 0x80 ≤ n) (hlt : n < 0x100) (he : b = UInt8.ofNat n) : 0x80 ≤ b.toNat := by
    rw [he, UInt8.toNat_ofNat_of_lt' hlt]
    exact hn
  have hc : c.val.toNat = c.toNat := rfl
  unfold String.utf8EncodeChar at hb
  simp only [hc] at hb
  split at hb
  · omega
  split at hb
  · simp only [List.mem_cons, List.not_mem_nil, or_false] at hb
    rcases hb with hb | hb <;> exact high (by omega) (by omega) hb
  split at hb
  · simp only [List.mem_cons, List.not_mem_nil, or_false] at hb
    rcases hb with hb | hb | hb <;> exact high (by omega) (by omega) hb
  · simp only [List.mem_cons, List.not_mem_nil, or_false] at hb
    rcases hb with hb | hb | hb | hb <;> exact high (by omega) (by omega) hb

@[simp] theorem encode_append (cs ds : List Char) : encode (cs ++ ds) = encode cs ++ encode ds := List.flatMap_append

@[simp] theorem encode_cons (c : Char) (cs : List Char) : encode (c :: cs) = String.utf8EncodeChar c ++ encode cs := rfl

/-! ## First bytes -/

theorem opening_one {n : Nat} (h : n < 0x80) : opening (UInt8.ofNat n) = .whole (Char.ofNat n) := by
  have hn : (UInt8.ofNat n).toNat = n := UInt8.toNat_ofNat_of_lt' (by simp only [UInt8.size]; omega)
  rw [opening, if_pos (by rw [UInt8.lt_iff_toNat_lt, hn]; exact h), hn]

theorem opening_two {n : Nat} (hlow : 2 ≤ n) (h : n < 32) :
    opening (UInt8.ofNat (n + 192)) = .more ⟨n, 1, 0x80, 0xBF⟩ := by
  interval_cases n <;> rfl

theorem opening_three {n : Nat} (h : n < 16) : opening (UInt8.ofNat (n + 224)) =
    .more ⟨n, 2, if n = 0 then 0xA0 else 0x80, if n = 13 then 0x9F else 0xBF⟩ := by
  interval_cases n <;> rfl

theorem opening_four {n : Nat} (h : n < 5) : opening (UInt8.ofNat (n + 240)) =
    .more ⟨n, 3, if n = 0 then 0x90 else 0x80, if n = 4 then 0x8F else 0xBF⟩ := by
  interval_cases n <;> rfl

/-! ## Further bytes -/

section Owed

variable {bits owed n : Nat} {low high : UInt8}

theorem toNat_further (h : n < 64) : (UInt8.ofNat (n + 128)).toNat = n + 128 :=
  UInt8.toNat_ofNat_of_lt' (by simp only [UInt8.size]; omega)

theorem grow_further (h : n < 64) :
    Begun.grow ⟨bits, owed, low, high⟩ (UInt8.ofNat (n + 128)) = ⟨bits * 64 + n, owed - 1, 0x80, 0xBF⟩ := by
  unfold Begun.grow
  rw [toNat_further h, Nat.add_sub_cancel n 128]

theorem in_range (h : n < 64) (hlow : low.toNat ≤ n + 128) (hhigh : n + 128 ≤ high.toNat) :
    low ≤ UInt8.ofNat (n + 128) ∧ UInt8.ofNat (n + 128) ≤ high := by
  rw [UInt8.le_iff_toNat_le, UInt8.le_iff_toNat_le, toNat_further h]
  exact ⟨hlow, hhigh⟩

theorem scan_last (h : n < 64) (hlow : low.toNat ≤ n + 128) (hhigh : n + 128 ≤ high.toNat) (l : List UInt8) :
    scan (some ⟨bits, 1, low, high⟩) (UInt8.ofNat (n + 128) :: l) =
      some (Char.ofNat (bits * 64 + n)) :: scan none l := by
  rw [scan, if_pos (in_range h hlow hhigh), if_pos (Nat.le_refl 1), grow_further h]

theorem scan_more (h : n < 64) (hlow : low.toNat ≤ n + 128) (hhigh : n + 128 ≤ high.toNat) (l : List UInt8) :
    scan (some ⟨bits, owed + 2, low, high⟩) (UInt8.ofNat (n + 128) :: l) =
      scan (some ⟨bits * 64 + n, owed + 1, 0x80, 0xBF⟩) l := by
  have hmore : ¬ owed + 2 ≤ 1 := by omega
  rw [scan, if_pos (in_range h hlow hhigh), if_neg hmore, grow_further h]
  rfl

end Owed

/-! ## Characters -/

/-- The sizes of a character are its ranges, and what is no character lies in none of the ranges of the second byte. -/
theorem scan_char (c : Char) (l : List UInt8) :
    scan none (String.utf8EncodeChar c ++ l) = some c :: scan none l := by
  have hc : Char.ofNat c.val.toNat = c := Char.ofNat_toNat c
  have hvalid : c.val.toNat < 0xD800 ∨ 0xDFFF < c.val.toNat ∧ c.val.toNat < 0x110000 := c.valid
  unfold String.utf8EncodeChar
  generalize c.val.toNat = v at hc hvalid
  subst hc
  dsimp only
  split
  · rw [List.singleton_append, scan, opening_one (by omega)]
  split
  · have hv : v / 64 % 32 * 64 + v % 64 = v := by omega
    rw [List.cons_append, List.singleton_append, scan, opening_two (by omega) (by omega)]
    dsimp only
    rw [scan_last (by omega) (Nat.le_add_left _ _) (by simp; omega), hv]
  split
  · have hv : (v / 4096 % 16 * 64 + v / 64 % 64) * 64 + v % 64 = v := by omega
    rw [List.cons_append, List.cons_append, List.singleton_append, scan, opening_three (by omega)]
    dsimp only
    rw [scan_more (by omega) (by split <;> simp; omega) (by split <;> simp <;> omega),
      scan_last (by omega) (Nat.le_add_left _ _) (by simp; omega), hv]
  · have hv : ((v / 262144 % 8 * 64 + v / 4096 % 64) * 64 + v / 64 % 64) * 64 + v % 64 = v := by omega
    rw [List.cons_append, List.cons_append, List.cons_append, List.singleton_append, scan, opening_four (by omega)]
    dsimp only
    rw [scan_more (by omega) (by split <;> simp; omega) (by split <;> simp <;> omega),
      scan_more (by omega) (Nat.le_add_left _ _) (by simp; omega),
      scan_last (by omega) (Nat.le_add_left _ _) (by simp; omega), hv]

theorem decode?_encode (cs : List Char) : decode? (encode cs) = some cs := by
  unfold decode?
  induction cs with
  | nil => rfl
  | cons c cs ih =>
    rw [encode, List.flatMap_cons, scan_char, ← encode, List.mapM_cons, ih]
    rfl

theorem decodeString?_encodeString (s : String) : decodeString? (encodeString s) = some s := by
  rw [decodeString?, encodeString, decode?_encode, Option.map_some, String.ofList_toList]

theorem encode_injective {cs ds : List Char} (h : encode cs = encode ds) : cs = ds :=
  Option.some.inj ((decode?_encode cs).symm.trans ((congrArg decode? h).trans (decode?_encode ds)))

/-! ## Decimal digits -/

theorem isDigit_of_mem_toString {n : Nat} {c : Char} (hc : c ∈ (toString n).toList) : c.isDigit = true :=
  Nat.isDigit_of_mem_toDigits (by decide) (by decide) (Nat.toList_repr ▸ hc)

theorem foldl_toString (n : Nat) : (toString n).toList.foldl (fun n c => n * 10 + (c.toNat - 48)) 0 = n := by
  have hstep : (fun (n : Nat) (c : Char) => n * 10 + (c.toNat - 48)) = fun n c => 10 * n + (c.toNat - '0'.toNat) := by
    funext n c
    rw [Nat.mul_comm]
    rfl
  rw [hstep]
  exact (congrArg (Nat.ofDigitChars 10 · 0) Nat.toList_repr).trans Nat.ofDigitChars_ten_toDigits

end DatastoreAccess.Text
