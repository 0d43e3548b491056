import Mathlib
import DatastoreAccess.Json.Printer
import DatastoreAccess.Proofs.Text.Encoding
/-!
# Proofs.Json.RoundTrip — what is printed is read back

A printed value is read from its first sign to its last and gives the value again (`ofString?_pretty`).  The layers of
the reader are taken from the inside out: the characters of a text, the text between its quotes, the numeral, and then
one arm of the reader after the other.  A value stands in front of a comma or a new line, so no numeral runs on; the
spaces of the layout stand before values and closing brackets, where the reader skips them.
-/
namespace DatastoreAccess.Json

open Text (encode)
open DatastoreAccess.Number (wordLimit signedLimit)

/-! ## Characters of a text -/

/-- Bytes that stand for themselves in a text. -/
def Plain (b : UInt8) : Prop := b ≠ 0x22 ∧ b ≠ 0x5C ∧ 0x20 ≤ b.toNat

theorem pieces_plain {b : UInt8} (h : Plain b) (l : List UInt8) :
    pieces (b :: l) = (pieces l).map fun p => (.raw b :: p.1, p.2) := by
  obtain ⟨hq, hs, hc⟩ := h
  have hlt : ¬ b < 0x20 := by
    rw [UInt8.lt_iff_toNat_lt]
    exact Nat.not_lt.2 hc
  rw [pieces.eq_def]
  split
  · simp_all
  · simp_all
  · simp_all
  · simp_all
  · simp_all

theorem pieces_short {b c : UInt8} (h : shortEscape? b = some c) (l : List UInt8) :
    pieces (0x5C :: b :: l) = (pieces l).map fun p => (.raw c :: p.1, p.2) := by
  have hb : b ≠ 0x75 := by
    rintro rfl
    cases h
  have hunit : ∀ a b' c' d r, b = 0x75 → l = a :: b' :: c' :: d :: r → False := fun _ _ _ _ _ h' _ => hb h'
  rw [pieces.eq_3 _ _ hunit, h]
  cases pieces l <;> rfl

theorem pieces_unit {a b c d : UInt8} {n : Nat} (h : hex4? a b c d = some n) (l : List UInt8) :
    pieces (0x5C :: 0x75 :: a :: b :: c :: d :: l) = (pieces l).map fun p => (.unit n :: p.1, p.2) := by
  rw [pieces, h]
  cases pieces l <;> rfl

theorem pieces_append {bs : List UInt8} (h : ∀ b ∈ bs, Plain b) (l : List UInt8) :
    pieces (bs ++ l) = (pieces l).map fun p => (bs.map .raw ++ p.1, p.2) := by
  induction bs with
  | nil => simp
  | cons b bs ih =>
    rw [List.forall_mem_cons] at h
    rw [List.cons_append, pieces_plain h.1, ih h.2, Option.map_map]
    rfl

theorem joined?_raw (bs : List UInt8) (qs : List Piece) :
    joined? (bs.map .raw ++ qs) = (joined? qs).map (bs ++ ·) := by
  induction bs with
  | nil => simp
  | cons b bs ih => simp [joined?, ih, Function.comp_def]

theorem joined?_unit {n : Nat} (h : n < 0xD800) (qs : List Piece) :
    joined? (.unit n :: qs) = (joined? qs).map (String.utf8EncodeChar (Char.ofNat n) ++ ·) := by
  rw [joined?.eq_def]
  dsimp only
  rw [if_neg (by omega), if_neg (by omega)]

/-- A character as it is written, read as pieces, stands for its own bytes. -/
def ReadsAs (written : List UInt8) (c : Char) : Prop :=
  ∃ ps, (∀ l, pieces (written ++ l) = (pieces l).map fun p => (ps ++ p.1, p.2)) ∧
    ∀ qs, joined? (ps ++ qs) = (joined? qs).map (String.utf8EncodeChar c ++ ·)

theorem readsAs_self {c : Char} (h : ∀ b ∈ String.utf8EncodeChar c, Plain b) :
    ReadsAs (String.utf8EncodeChar c) c :=
  ⟨_, pieces_append h, joined?_raw _⟩

theorem readsAs_short {b : UInt8} {c : Char} (h : shortEscape? b = some (UInt8.ofNat c.toNat)) (hc : c.toNat < 0x80) :
    ReadsAs [0x5C, b] c := by
  refine ⟨[.raw (UInt8.ofNat c.toNat)], pieces_short h, fun qs => ?_⟩
  rw [(Text.utf8EncodeChar_of_ascii hc).1]
  exact joined?_raw [_] qs

theorem hex4?_control : ∀ n < 0x20,
    hex4? 0x30 0x30 (UInt8.ofNat (hexChar (n / 16)).toNat) (UInt8.ofNat (hexChar (n % 16)).toNat) = some n := by
  decide

theorem hexChar_ascii : ∀ n < 16, (hexChar n).toNat < 0x80 := by decide

theorem readsAs_control {c : Char} (hc : c.toNat < 0x20) :
    ReadsAs (encode ['\\', 'u', '0', '0', hexChar (c.toNat / 16), hexChar (c.toNat % 16)]) c := by
  have hascii : ∀ d ∈ ['\\', 'u', '0', '0', hexChar (c.toNat / 16), hexChar (c.toNat % 16)], d.toNat < 0x80 := by
    simp only [List.forall_mem_cons, List.not_mem_nil, false_imp_iff, implies_true, and_true]
    exact ⟨by decide, by decide, by decide, by decide, hexChar_ascii _ (by omega), hexChar_ascii _ (by omega)⟩
  rw [Text.encode_of_ascii hascii]
  refine ⟨[.unit c.toNat], pieces_unit (hex4?_control _ hc), fun qs => ?_⟩
  rw [List.singleton_append, joined?_unit (by omega), Char.ofNat_toNat]

/-- Only quotes, backslashes and control characters do not stand for themselves. -/
theorem plain_of_mem {c : Char} (hquote : c ≠ '"') (hslash : c ≠ '\\') (hc : 0x20 ≤ c.toNat) :
    ∀ b ∈ String.utf8EncodeChar c, Plain b := by
  intro b hb
  by_cases h : c.toNat < 0x80
  · obtain ⟨hbytes, hn⟩ := Text.utf8EncodeChar_of_ascii h
    rw [hbytes, List.mem_singleton] at hb
    subst hb
    have differs {d : Char} (hd : c ≠ d) : (UInt8.ofNat c.toNat).toNat ≠ d.toNat := by
      rw [hn]
      exact fun he => hd (Char.toNat_inj.1 he)
    refine ⟨fun he => differs hquote (congrArg UInt8.toNat he), fun he => differs hslash (congrArg UInt8.toNat he), ?_⟩
    rw [hn]
    exact hc
  · have hge := Text.le_of_mem_utf8EncodeChar (Nat.not_lt.1 h) hb
    refine ⟨?_, ?_, Nat.le_trans (by decide) hge⟩
    · rintro rfl
      exact absurd hge (by decide)
    · rintro rfl
      exact absurd hge (by decide)

theorem readsAs_escape (c : Char) : ReadsAs (encode (escape c)) c := by
  unfold escape
  split
  · subst_vars
    exact readsAs_short rfl (by decide)
  · rename_i hquote
    split
    · subst_vars
      exact readsAs_short rfl (by decide)
    · rename_i hslash
      -- the five control characters with a letter of their own
      iterate 5
        split
        · subst_vars
          exact readsAs_short rfl (by decide)
      split
      · rename_i hc
        exact readsAs_control hc
      · rename_i hc
        have hself : encode [c] = String.utf8EncodeChar c := List.append_nil _
        rw [hself]
        exact readsAs_self (plain_of_mem hquote hslash (Nat.not_lt.1 hc))

/-! ## Texts -/

theorem pieces_escaped (cs : List Char) (l : List UInt8) : ∃ ps,
    pieces (encode (cs.flatMap escape) ++ 0x22 :: l) = some (ps, l) ∧ joined? ps = some (encode cs) := by
  induction cs with
  | nil => exact ⟨[], rfl, rfl⟩
  | cons c cs ih =>
    obtain ⟨qs, hqs, hq⟩ := ih
    obtain ⟨ps, hps, hp⟩ := readsAs_escape c
    refine ⟨ps ++ qs, ?_, ?_⟩
    · rw [List.flatMap_cons, Text.encode_append, List.append_assoc, hps, hqs, Option.map_some]
    · rw [hp, hq, Option.map_some, Text.encode_cons]

theorem text_escaped (s : String) (l : List UInt8) :
    text (encode (s.toList.flatMap escape) ++ 0x22 :: l) = some (some s, l) := by
  obtain ⟨ps, hps, hp⟩ := pieces_escaped s.toList l
  rw [text, hps, Option.map_some]
  dsimp only
  rw [hp, Option.bind_some]
  exact congrArg (fun t => some (t, l)) (Text.decodeString?_encodeString s)

theorem encode_quoted (s : String) : encode (quoted s) = 0x22 :: (encode (s.toList.flatMap escape) ++ [0x22]) := by
  rw [quoted, Text.encode_append, Text.encode_cons]
  rfl

/-! ## Numerals -/

/-- What may follow a number: nothing, a comma or a new line. -/
def Stops (l : List UInt8) : Prop := ∀ b, l.head? = some b → b = 0x2C ∨ b = 0x0A

theorem stops_cons {b : UInt8} (h : b = 0x2C ∨ b = 0x0A) (l : List UInt8) : Stops (b :: l) := by
  rintro c ⟨⟩
  exact h

def decimals (n : Nat) : List Nat := (toString n).toList.map fun c => c.toNat - 48

theorem toNat_of_isDigit {c : Char} (h : c.isDigit = true) : 48 ≤ c.toNat ∧ c.toNat ≤ 57 := by
  simp only [Char.isDigit, Bool.and_eq_true, decide_eq_true_eq, UInt32.le_iff_toNat_le] at h
  exact h

theorem encode_toString (n : Nat) :
    encode (toString n).toList = (toString n).toList.map fun c => UInt8.ofNat c.toNat :=
  Text.encode_of_ascii fun _ hc => by
    have := toNat_of_isDigit (Text.isDigit_of_mem_toString hc)
    omega

theorem isDigit_ofNat {n : Nat} (h : 48 ≤ n ∧ n ≤ 57) : isDigit (UInt8.ofNat n) = true ∧ (UInt8.ofNat n).toNat = n := by
  have hn : (UInt8.ofNat n).toNat = n := UInt8.toNat_ofNat_of_lt' (by simp only [UInt8.size]; omega)
  refine ⟨?_, hn⟩
  simp only [isDigit, Bool.and_eq_true, decide_eq_true_eq, UInt8.le_iff_toNat_le, hn]
  exact h

theorem not_isDigit_of_stops {l : List UInt8} (h : Stops l) : l.takeWhile isDigit = [] ∧ l.dropWhile isDigit = l := by
  cases l with
  | nil => exact ⟨rfl, rfl⟩
  | cons b l => rcases h b rfl with rfl | rfl <;> exact ⟨rfl, rfl⟩

theorem digits_toString (n : Nat) {l : List UInt8} (h : Stops l) :
    digits (encode (toString n).toList ++ l) = (decimals n, l) := by
  have hdigit (c : Char) (hc : c ∈ (toString n).toList) := isDigit_ofNat (toNat_of_isDigit (Text.isDigit_of_mem_toString hc))
  have hall : ∀ b ∈ encode (toString n).toList, isDigit b = true := by
    rw [encode_toString, List.forall_mem_map]
    exact fun c hc => (hdigit c hc).1
  obtain ⟨htake, hdrop⟩ := not_isDigit_of_stops h
  rw [digits, List.takeWhile_append_of_pos hall, List.dropWhile_append_of_pos hall, htake, hdrop, List.append_nil,
    encode_toString, List.map_map]
  refine Prod.ext (List.map_congr_left fun c hc => ?_) rfl
  exact congrArg (· - 48) (hdigit c hc).2

theorem head?_toDigits {n : Nat} (h : 0 < n) : (Nat.toDigits 10 n).head? ≠ some '0' := by
  induction n using Nat.strong_induction_on with
  | _ n ih =>
    by_cases hn : n < 10
    · rw [Nat.toDigits_of_lt_base hn]
      interval_cases n <;> decide
    · have hne : Nat.toDigits 10 (n / 10) ≠ [] := Nat.toDigits_ne_nil
      rw [Nat.toDigits_of_base_le (by decide) (Nat.not_lt.1 hn), List.head?_append_of_ne_nil _ hne]
      exact ih (n / 10) (by omega) (by omega)

theorem exists_first_digit (n : Nat) : ∃ b bs, encode (toString n).toList = b :: bs ∧ isDigit b = true ∧
    decimals n ≠ [] ∧ (0 < n → b ≠ 0x30) := by
  have hlist : (toString n).toList = Nat.toDigits 10 n := Nat.toList_repr
  cases hd : (toString n).toList with
  | nil => exact absurd (hlist.symm.trans hd) Nat.toDigits_ne_nil
  | cons c cs =>
    obtain ⟨hb, hc⟩ := isDigit_ofNat (toNat_of_isDigit (Text.isDigit_of_mem_toString (hd ▸ List.mem_cons_self)))
    refine ⟨_, _, hd ▸ encode_toString n, hb, ?_, fun hn he => ?_⟩
    · rw [decimals, hd]
      exact List.cons_ne_nil _ _
    · have hzero : c = '0' := Char.toNat_inj.1 (hc.symm.trans (congrArg UInt8.toNat he))
      refine head?_toDigits hn ?_
      rw [← hlist, hd, hzero]
      rfl

theorem afterWhole_of_stops (negative : Bool) (ds : List Nat) {l : List UInt8} (h : Stops l) :
    afterWhole negative ds l = some (⟨negative, ds, [], none⟩, l) := by
  cases l with
  | nil => rfl
  | cons b l => rcases h b rfl with rfl | rfl <;> rfl

theorem unsignedNumeral_toString (negative : Bool) (n : Nat) {l : List UInt8} (h : Stops l) :
    unsignedNumeral negative (encode (toString n).toList ++ l) = some (⟨negative, decimals n, [], none⟩, l) := by
  by_cases hn : n = 0
  · subst hn
    exact afterWhole_of_stops negative [0] h
  · obtain ⟨b, bs, hbytes, -, hne, hzero⟩ := exists_first_digit n
    have hhead : ∀ r, encode (toString n).toList ++ l = 0x30 :: r → False := by
      intro r hr
      rw [hbytes] at hr
      exact hzero (Nat.pos_of_ne_zero hn) (List.cons.inj hr).1
    rw [unsignedNumeral.eq_2 _ _ hhead, digits_toString n h]
    cases hd : decimals n with
    | nil => exact absurd hd hne
    | cons d ds => exact afterWhole_of_stops negative (d :: ds) h

theorem le_foldl_digits : ∀ (ds : List Nat) (v : Nat), v ≤ ds.foldl (fun v d => v * 10 + d) v
  | [], v => Nat.le_refl v
  | d :: ds, v => Nat.le_trans (by omega) (le_foldl_digits ds (v * 10 + d))

/-- Digits are read as what they count together, as long as 64 bits hold it. -/
theorem whole_of_lt : ∀ (ds : List Nat) (v : Nat), ds.foldl (fun v d => v * 10 + d) v < wordLimit →
    Significand.whole ⟨v, 0, false⟩ ds = ⟨ds.foldl (fun v d => v * 10 + d) v, 0, false⟩
  | [], v, _ => rfl
  | d :: ds, v, h => by
    have hle : v * 10 + d ≤ ds.foldl (fun v d => v * 10 + d) (v * 10 + d) := le_foldl_digits ds _
    have hlt : ¬ (false = true ∨ wordLimit ≤ v * 10 + d) := by
      rintro (hf | hf)
      · cases hf
      · exact absurd h (Nat.not_lt.2 (Nat.le_trans hf hle))
    rw [Significand.whole, if_neg hlt, whole_of_lt ds _ h]
    rfl

theorem whole_decimals {n : Nat} (h : n < wordLimit) :
    Significand.whole ⟨0, 0, false⟩ (decimals n) = ⟨n, 0, false⟩ := by
  have hfold : (decimals n).foldl (fun v d => v * 10 + d) 0 = n := by
    rw [decimals, List.foldl_map]
    exact Text.foldl_toString n
  rw [whole_of_lt _ _ (hfold.symm ▸ h), hfold]

/-- An integer that 64 bits hold, with its sign or without one. -/
def FitsWord (n : Int) : Prop := -(signedLimit : Int) ≤ n ∧ n < wordLimit

instance (n : Int) : Decidable (FitsWord n) := inferInstanceAs (Decidable (_ ∧ _))

theorem number?_of_natural {n : Nat} (h : n < wordLimit) :
    Numeral.number? ⟨false, decimals n, [], none⟩ = some (.integer n) := by
  unfold Numeral.number?
  simp only [whole_decimals h]
  rfl

theorem number?_of_negative {n : Nat} (hpos : 0 < n) (h : n ≤ signedLimit) :
    Numeral.number? ⟨true, decimals n, [], none⟩ = some (.integer (-n)) := by
  have hlt : n < wordLimit := Nat.lt_of_le_of_lt h (by decide)
  unfold Numeral.number?
  simp only [whole_decimals hlt, hpos, h, and_self, if_true, not_true_eq_false, if_false, Bool.false_eq_true,
    not_false_eq_true]

/-- The numeral that a printed integer is read as. -/
def numeralOf : Int → Numeral
  | .ofNat n => ⟨false, decimals n, [], none⟩
  | .negSucc n => ⟨true, decimals (n + 1), [], none⟩

theorem numeral_text {n : Int} (hn : FitsWord n) : (numeralOf n).number? = some (.integer n) ∧
    (∃ b bs, encode (Number.text (.integer n)) = b :: bs ∧ (isDigit b = true ∨ b = 0x2D)) ∧
    ∀ l, Stops l → numeral (encode (Number.text (.integer n)) ++ l) = some (numeralOf n, l) := by
  obtain ⟨hlow, hhigh⟩ := hn
  cases n with
  | ofNat n =>
    have htext : Number.text (.integer (.ofNat n)) = (toString n).toList := rfl
    obtain ⟨b, bs, hbytes, hdigit, -⟩ := exists_first_digit n
    refine ⟨number?_of_natural (Int.ofNat_lt.1 hhigh), ⟨b, bs, htext ▸ hbytes, .inl hdigit⟩, fun l hl => ?_⟩
    have hminus : ∀ r, encode (toString n).toList ++ l = 0x2D :: r → False := by
      intro r hr
      rw [hbytes] at hr
      rw [(List.cons.inj hr).1] at hdigit
      cases hdigit
    rw [htext, numeral.eq_2 _ hminus]
    exact unsignedNumeral_toString false n hl
  | negSucc n =>
    have htext : encode (Number.text (.integer (.negSucc n))) = 0x2D :: encode (toString (n + 1)).toList := by
      have hstring : toString (Int.negSucc n) = "-" ++ toString (n + 1) := rfl
      rw [Number.text, hstring, String.toList_append]
      rfl
    have hle : n + 1 ≤ signedLimit := by omega
    refine ⟨number?_of_negative (Nat.succ_pos n) hle, ⟨_, _, htext, .inr rfl⟩, fun l hl => ?_⟩
    rw [htext]
    exact unsignedNumeral_toString true (n + 1) hl

/-! ## Spaces -/

theorem skip_of_not_space {b : UInt8} (h : isSpace b = false) (l : List UInt8) : skip (b :: l) = b :: l := by
  rw [skip, List.dropWhile_cons_of_neg (by simp [h])]

theorem skip_space {b : UInt8} (h : isSpace b = true) (l : List UInt8) : skip (b :: l) = skip l := by
  rw [skip, List.dropWhile_cons_of_pos h, skip]

theorem skip_newline (depth : Nat) (l : List UInt8) : skip (encode (newline depth) ++ l) = skip l := by
  have hspaces (n : Nat) : skip (encode (List.replicate n ' ') ++ l) = skip l := by
    induction n with
    | zero => rfl
    | succ n ih => exact (skip_space rfl _).trans ih
  exact (skip_space rfl _).trans (hspaces _)

theorem skip_newline_cons {b : UInt8} (h : isSpace b = false) (depth : Nat) (l : List UInt8) :
    skip (encode (newline depth) ++ b :: l) = b :: l :=
  (skip_newline depth _).trans (skip_of_not_space h l)

/-! ## One step of reading -/

section Steps

variable {fuel : Nat} {l r : List UInt8}

theorem value_succ (fuel : Nat) (l : List UInt8) : value (fuel + 1) l =
    match skip l with
    | 0x6E :: 0x75 :: 0x6C :: 0x6C :: r => some (.null, r)
    | 0x74 :: 0x72 :: 0x75 :: 0x65 :: r => some (.bool true, r)
    | 0x66 :: 0x61 :: 0x6C :: 0x73 :: 0x65 :: r => some (.bool false, r)
    | 0x22 :: r => (text r).map fun (s, r) => (.text s, r)
    | 0x5B :: r =>
      match skip r with
      | 0x5D :: r => some (.list [], r)
      | _ => (items fuel r).map fun (ts, r) => (.list ts, r)
    | 0x7B :: r =>
      match skip r with
      | 0x7D :: r => some (.object [], r)
      | _ => (members fuel r).map fun (ms, r) => (.object ms, r)
    | r => (numeral r).map fun (n, r) => (.number n, r) := rfl

theorem items_succ (fuel : Nat) (l : List UInt8) : items (fuel + 1) l =
    match value fuel l with
    | none => none
    | some (t, r) =>
      match skip r with
      | 0x2C :: r => (items fuel r).map fun (ts, r) => (t :: ts, r)
      | 0x5D :: r => some ([t], r)
      | _ => none := rfl

theorem value_null (h : skip l = 0x6E :: 0x75 :: 0x6C :: 0x6C :: r) : value (fuel + 1) l = some (.null, r) := by
  rw [value_succ, h]
  rfl

theorem value_true (h : skip l = 0x74 :: 0x72 :: 0x75 :: 0x65 :: r) : value (fuel + 1) l = some (.bool true, r) := by
  rw [value_succ, h]
  rfl

theorem value_false (h : skip l = 0x66 :: 0x61 :: 0x6C :: 0x73 :: 0x65 :: r) :
    value (fuel + 1) l = some (.bool false, r) := by
  rw [value_succ, h]
  rfl

theorem value_text (h : skip l = 0x22 :: r) : value (fuel + 1) l = (text r).map fun (s, r) => (.text s, r) := by
  rw [value_succ, h]
  rfl

theorem value_empty_list (h : skip l = 0x5B :: 0x5D :: r) : value (fuel + 1) l = some (.list [], r) := by
  rw [value_succ, h]
  rfl

theorem value_list {b : UInt8} {bs : List UInt8} (h : skip l = 0x5B :: r) (hr : skip r = b :: bs) (hb : b ≠ 0x5D) :
    value (fuel + 1) l = (items fuel r).map fun (ts, r) => (.list ts, r) := by
  rw [value_succ, h]
  change (match skip r with
    | 0x5D :: r => some (Tree.list [], r)
    | _ => (items fuel r).map fun (ts, r) => (.list ts, r)) = _
  rw [hr]
  split
  · rename_i he
    exact absurd (List.cons.inj he).1 hb
  · rfl

theorem value_empty_object (h : skip l = 0x7B :: 0x7D :: r) : value (fuel + 1) l = some (.object [], r) := by
  rw [value_succ, h]
  rfl

theorem value_object {bs : List UInt8} (h : skip l = 0x7B :: r) (hr : skip r = 0x22 :: bs) :
    value (fuel + 1) l = (members fuel r).map fun (ms, r) => (.object ms, r) := by
  rw [value_succ, h]
  change (match skip r with
    | 0x7D :: r => some (Tree.object [], r)
    | _ => (members fuel r).map fun (ms, r) => (.object ms, r)) = _
  rw [hr]
  rfl

/-- A number opens with a digit or a minus sign, and with no other byte. -/
theorem ne_of_opens {b c : UInt8} (hb : isDigit b = true ∨ b = 0x2D) (hdigit : isDigit c = false) (hminus : c ≠ 0x2D) :
    b ≠ c := by
  rintro rfl
  rcases hb with hb | hb
  · exact absurd (hb.symm.trans hdigit) nofun
  · exact hminus hb

theorem not_isSpace_of_opens {b : UInt8} (hb : isDigit b = true ∨ b = 0x2D) : isSpace b = false := by
  simp only [isSpace, Bool.or_eq_false_iff, decide_eq_false_iff_not]
  refine ⟨⟨⟨?_, ?_⟩, ?_⟩, ?_⟩
  all_goals exact ne_of_opens hb (by decide) (by decide)

theorem value_number {b : UInt8} (h : skip l = b :: r) (hb : isDigit b = true ∨ b = 0x2D) :
    value (fuel + 1) l = (numeral (b :: r)).map fun (n, r) => (.number n, r) := by
  rw [value_succ, h]
  split
  case h_7 => rfl
  all_goals
    rename_i he
    exact absurd (List.cons.inj he).1 (ne_of_opens hb (by decide) (by decide))

variable {t : Tree} {r₁ r₂ r₃ : List UInt8}

theorem items_last (h : value fuel l = some (t, r)) (hr : skip r = 0x5D :: r₁) :
    items (fuel + 1) l = some ([t], r₁) := by
  rw [items_succ, h]
  dsimp only
  rw [hr]
  rfl

theorem items_more (h : value fuel l = some (t, r)) (hr : skip r = 0x2C :: r₁) :
    items (fuel + 1) l = (items fuel r₁).map fun (ts, r) => (t :: ts, r) := by
  rw [items_succ, h]
  dsimp only
  rw [hr]
  rfl

/-- What stands behind a named value: a comma and more of them, or the closing brace. -/
def further (fuel : Nat) (m : Option String × Tree) (l : List UInt8) :
    Option (List (Option String × Tree) × List UInt8) :=
  match skip l with
  | 0x2C :: r => (members fuel r).map fun (ms, r) => (m :: ms, r)
  | 0x7D :: r => some ([m], r)
  | _ => none

theorem further_comma {m : Option String × Tree} (h : skip l = 0x2C :: r) :
    further fuel m l = (members fuel r).map fun (ms, r) => (m :: ms, r) := by
  rw [further, h]
  rfl

theorem further_brace {m : Option String × Tree} (h : skip l = 0x7D :: r) : further fuel m l = some ([m], r) := by
  rw [further, h]
  rfl

theorem members_step {name : Option String} (hl : skip l = 0x22 :: r) (hname : text r = some (name, r₁))
    (hcolon : skip r₁ = 0x3A :: r₂) (ht : value fuel r₂ = some (t, r₃)) :
    members (fuel + 1) l = further fuel (name, t) r₃ := by
  have hvalue : members (fuel + 1) l = match value fuel r₂ with
      | none => none
      | some (t, r) => further fuel (name, t) r := by
    rw [members, hl]
    simp only [hname]
    rw [hcolon]
    rfl
  rw [hvalue, ht]

end Steps

/-! ## Values -/

/-- A value that a text can hold: its integers fit 64 bits, none of its numbers is a double, no object repeats a name, and
it is nested at most `room` deep. -/
inductive Written : (room : Nat) → Json → Prop
  | null {room : Nat} : Written room .null
  | bool {room : Nat} (b : Bool) : Written room (.bool b)
  | integer {room : Nat} {n : Int} (fits : FitsWord n) : Written room (.number (.integer n))
  | string {room : Nat} (s : String) : Written room (.string s)
  | array {room : Nat} {vs : List Json} (items : ∀ v ∈ vs, Written room v) : Written (room + 1) (.array vs)
  | object {room : Nat} {fs : List (String × Json)} (distinct : (fs.map Prod.fst).Nodup)
      (fields : ∀ f ∈ fs, Written room f.2) : Written (room + 1) (.object fs)

theorem Written.record {room : Nat} {fs : List (String × Json)} (distinct : (fs.map Prod.fst).Nodup)
    (fields : fs.Forall fun f => Written room f.2) : Written (room + 1) (.object fs) :=
  .object distinct (List.forall_iff_forall_mem.1 fields)

mutual

/-- The tree that a printed value is read as.  Doubles, which are not followed here, are left out. -/
def toTree : Json → Tree
  | .null => .null
  | .bool b => .bool b
  | .number (.integer n) => .number (numeralOf n)
  | .number (.float _) => .null
  | .string s => .text (some s)
  | .array vs => .list (toTrees vs)
  | .object fs => .object (toMembers fs)

def toTrees : List Json → List Tree
  | [] => []
  | v :: vs => v.toTree :: toTrees vs

def toMembers : List (String × Json) → List (Option String × Tree)
  | [] => []
  | (n, v) :: fs => (some n, v.toTree) :: toMembers fs

end

/-- A value is read back, wherever it stands and whatever follows it. -/
structure ReadsBack (room : Nat) (j : Json) : Prop where
  valued : j.toTree.value? room = some j
  opens : ∀ depth, ∃ b bs, encode (prettyChars depth j) = b :: bs ∧ isSpace b = false ∧ b ≠ 0x5D
  -- A sign takes at most two steps: one for a value, and one for the item or the field that the value is.
  reads : ∀ depth fuel l l₀, Stops l → 2 * (encode (prettyChars depth j)).length ≤ fuel →
    skip l₀ = encode (prettyChars depth j) ++ l → value fuel l₀ = some (j.toTree, l)

/-- A value is read in one step, which its first sign decides. -/
theorem readsBack_of_step {room : Nat} {j : Json} (hvalued : j.toTree.value? room = some j)
    (hstep : ∀ depth, ∃ b bs, encode (prettyChars depth j) = b :: bs ∧ isSpace b = false ∧ b ≠ 0x5D ∧
      ∀ fuel l l₀, Stops l → 2 * bs.length ≤ fuel → skip l₀ = b :: (bs ++ l) →
        value (fuel + 1) l₀ = some (j.toTree, l)) : ReadsBack room j := by
  refine ⟨hvalued, fun depth => ?_, fun depth fuel l l₀ hl hfuel hskip => ?_⟩
  · obtain ⟨b, bs, hb, hspace, hne, -⟩ := hstep depth
    exact ⟨b, bs, hb, hspace, hne⟩
  · obtain ⟨b, bs, hb, -, -, hread⟩ := hstep depth
    rw [hb] at hfuel hskip
    rw [List.length_cons] at hfuel
    obtain ⟨fuel, rfl⟩ : ∃ k, fuel = k + 1 := ⟨fuel - 1, by omega⟩
    exact hread fuel l l₀ hl (by omega) hskip

theorem ReadsBack.skip_eq {room : Nat} {j : Json} (h : ReadsBack room j) (depth : Nat) (l : List UInt8) :
    skip (encode (prettyChars depth j) ++ l) = encode (prettyChars depth j) ++ l := by
  obtain ⟨b, bs, hb, hs, -⟩ := h.opens depth
  rw [hb, List.cons_append, skip_of_not_space hs]

theorem length_newline (depth : Nat) : 1 ≤ (encode (newline depth)).length := by
  rw [newline, Text.encode_cons, List.length_append]
  exact Nat.le_add_right 1 _

/-! ### Lists -/

theorem encode_item (depth : Nat) (v : Json) :
    encode (prettyItems depth [v]) = encode (newline depth) ++ encode (prettyChars depth v) :=
  Text.encode_append _ _

theorem encode_items (depth : Nat) (v w : Json) (vs : List Json) : encode (prettyItems depth (v :: w :: vs)) =
    encode (prettyItems depth [v]) ++ 0x2C :: encode (prettyItems depth (w :: vs)) := by
  have hcomma : String.utf8EncodeChar ',' = [0x2C] := rfl
  simp [prettyItems, hcomma]

theorem value_item {room : Nat} {v : Json} (hv : ReadsBack room v) (depth fuel : Nat) {l : List UInt8} (hl : Stops l)
    (hfuel : 2 * (encode (prettyItems depth [v])).length ≤ fuel + 1) :
    value fuel (encode (prettyItems depth [v]) ++ l) = some (v.toTree, l) := by
  have hnew := length_newline depth
  rw [encode_item, List.length_append] at hfuel
  rw [encode_item, List.append_assoc]
  exact hv.reads depth fuel l _ hl (by omega) ((skip_newline depth _).trans (hv.skip_eq depth l))

theorem items_reads {room : Nat} : ∀ {vs : List Json}, vs ≠ [] → (∀ v ∈ vs, ReadsBack room v) →
    listValues? room (toTrees vs) = some vs ∧ ∀ depth fuel l l', Stops l → skip l = 0x5D :: l' →
      2 * (encode (prettyItems depth vs)).length ≤ fuel →
      items (fuel + 1) (encode (prettyItems depth vs) ++ l) = some (toTrees vs, l')
  | [v], _, h => by
    have hv := h v (List.mem_singleton_self v)
    refine ⟨?_, fun depth fuel l l' hl hclose hfuel => ?_⟩
    · simp [toTrees, listValues?, hv.valued]
    · exact items_last (value_item hv depth fuel hl (by omega)) hclose
  | v :: w :: vs, _, h => by
    have hv := h v List.mem_cons_self
    obtain ⟨hvalues, hitems⟩ := items_reads (List.cons_ne_nil w vs) fun x hx => h x (List.mem_cons_of_mem v hx)
    refine ⟨?_, fun depth fuel l l' hl hclose hfuel => ?_⟩
    · rw [toTrees]
      simp [listValues?, hv.valued, hvalues]
    · rw [encode_items, List.length_append, List.length_cons] at hfuel
      obtain ⟨fuel, rfl⟩ : ∃ k, fuel = k + 1 := ⟨fuel - 1, by omega⟩
      rw [encode_items, List.append_assoc, List.cons_append]
      have hcomma := stops_cons (.inl rfl) (encode (prettyItems depth (w :: vs)) ++ l)
      have hfirst := value_item hv depth (fuel + 1) hcomma (by omega)
      rw [items_more hfirst (skip_of_not_space rfl _), hitems depth fuel l l' hl hclose (by omega)]
      rfl

theorem skip_items {room : Nat} {v : Json} (hv : ReadsBack room v) (vs : List Json) (depth : Nat)
    (l : List UInt8) : ∃ b bs, skip (encode (prettyItems depth (v :: vs)) ++ l) = b :: bs ∧ b ≠ 0x5D := by
  obtain ⟨b, bs, hb, hs, hne⟩ := hv.opens depth
  have hfirst (r : List UInt8) : skip (encode (prettyItems depth [v]) ++ r) = b :: (bs ++ r) := by
    rw [encode_item, List.append_assoc, hb]
    exact skip_newline_cons hs depth _
  cases vs with
  | nil => exact ⟨b, _, hfirst l, hne⟩
  | cons w vs =>
    rw [encode_items, List.append_assoc]
    exact ⟨b, _, hfirst _, hne⟩

/-! ### Objects -/

theorem encode_field (depth : Nat) (n : String) (v : Json) : encode (prettyFields depth [(n, v)]) =
    encode (newline depth) ++ (0x22 :: encode (n.toList.flatMap escape) ++
      0x22 :: 0x3A :: 0x20 :: encode (prettyChars depth v)) := by
  have hcolon : String.utf8EncodeChar ':' = [0x3A] := rfl
  have hspace : String.utf8EncodeChar ' ' = [0x20] := rfl
  simp [prettyFields, encode_quoted, hcolon, hspace]

theorem encode_fields (depth : Nat) (f g : String × Json) (fs : List (String × Json)) :
    encode (prettyFields depth (f :: g :: fs)) =
      encode (prettyFields depth [f]) ++ 0x2C :: encode (prettyFields depth (g :: fs)) := by
  have hcomma : String.utf8EncodeChar ',' = [0x2C] := rfl
  simp [prettyFields, hcomma]

theorem skip_field (depth : Nat) (n : String) (v : Json) (l : List UInt8) :
    skip (encode (prettyFields depth [(n, v)]) ++ l) = 0x22 :: (encode (n.toList.flatMap escape) ++
      0x22 :: 0x3A :: 0x20 :: (encode (prettyChars depth v) ++ l)) := by
  rw [encode_field, List.append_assoc, List.append_assoc]
  exact skip_newline_cons rfl depth _

theorem members_field {room : Nat} {n : String} {v : Json} (hv : ReadsBack room v) (depth fuel : Nat)
    {l : List UInt8} (hl : Stops l) (hfuel : 2 * (encode (prettyFields depth [(n, v)])).length ≤ fuel + 1) :
    members (fuel + 1) (encode (prettyFields depth [(n, v)]) ++ l) = further fuel (some n, v.toTree) l := by
  have hspace : skip (0x20 :: (encode (prettyChars depth v) ++ l)) = encode (prettyChars depth v) ++ l :=
    (skip_space rfl _).trans (hv.skip_eq depth l)
  rw [encode_field] at hfuel
  simp only [List.length_append, List.length_cons] at hfuel
  exact members_step (skip_field depth n v l) (text_escaped n _) (skip_of_not_space rfl _)
    (hv.reads depth fuel l _ hl (by omega) hspace)

theorem members_reads {room : Nat} : ∀ {fs : List (String × Json)}, fs ≠ [] → (∀ f ∈ fs, ReadsBack room f.2) →
    memberValues? room (toMembers fs) = some fs ∧ ∀ depth fuel l l', Stops l → skip l = 0x7D :: l' →
      2 * (encode (prettyFields depth fs)).length ≤ fuel →
      members (fuel + 1) (encode (prettyFields depth fs) ++ l) = some (toMembers fs, l')
  | [(n, v)], _, h => by
    have hv : ReadsBack room v := h (n, v) (List.mem_singleton_self _)
    refine ⟨?_, fun depth fuel l l' hl hclose hfuel => ?_⟩
    · simp [toMembers, memberValues?, hv.valued]
    · exact (members_field hv depth fuel hl (by omega)).trans (further_brace hclose)
  | (n, v) :: f :: fs, _, h => by
    have hv : ReadsBack room v := h (n, v) List.mem_cons_self
    obtain ⟨hvalues, hmembers⟩ := members_reads (List.cons_ne_nil f fs) fun x hx => h x (List.mem_cons_of_mem _ hx)
    refine ⟨?_, fun depth fuel l l' hl hclose hfuel => ?_⟩
    · rw [toMembers]
      simp [memberValues?, hv.valued, hvalues]
    · rw [encode_fields, List.length_append, List.length_cons] at hfuel
      obtain ⟨fuel, rfl⟩ : ∃ k, fuel = k + 1 := ⟨fuel - 1, by omega⟩
      rw [encode_fields, List.append_assoc, List.cons_append]
      rw [members_field hv depth (fuel + 1) (stops_cons (.inl rfl) _) (by omega)]
      rw [further_comma (skip_of_not_space rfl _), hmembers depth fuel l l' hl hclose (by omega)]
      rfl

theorem skip_fields (f : String × Json) (fs : List (String × Json)) (depth : Nat) (l : List UInt8) :
    ∃ bs, skip (encode (prettyFields depth (f :: fs)) ++ l) = 0x22 :: bs := by
  cases fs with
  | nil => exact ⟨_, skip_field depth f.1 f.2 l⟩
  | cons g fs =>
    rw [encode_fields, List.append_assoc]
    exact ⟨_, skip_field depth f.1 f.2 _⟩

/-! ### All values -/

theorem put_of_not_mem {name : String} {v : Json} : ∀ {fs : List (String × Json)}, name ∉ fs.map Prod.fst →
    put name v fs = fs ++ [(name, v)]
  | [], _ => rfl
  | (n, w) :: fs, h => by
    rw [List.map_cons, List.mem_cons, not_or] at h
    rw [put, if_neg (Ne.symm h.1), put_of_not_mem h.2]
    rfl

theorem foldl_put : ∀ {fs front : List (String × Json)}, ((front ++ fs).map Prod.fst).Nodup →
    fs.foldl (fun fs m => put m.1 m.2 fs) front = front ++ fs
  | [], front, _ => (List.append_nil front).symm
  | (n, v) :: fs, front, h => by
    have hn : n ∉ front.map Prod.fst := by
      rw [List.map_append, List.map_cons] at h
      exact fun hm => (List.nodup_append.1 h).2.2 n hm n List.mem_cons_self rfl
    have happend : front ++ (n, v) :: fs = (front ++ [(n, v)]) ++ fs := by simp
    rw [List.foldl_cons, put_of_not_mem hn, happend]
    rw [happend] at h
    exact foldl_put h

theorem ofMembers_of_nodup {fs : List (String × Json)} (h : (fs.map Prod.fst).Nodup) : ofMembers fs = fs :=
  @foldl_put fs [] h

theorem encode_array (depth : Nat) (v : Json) (vs : List Json) : encode (prettyChars depth (.array (v :: vs))) =
    0x5B :: (encode (prettyItems (depth + 1) (v :: vs)) ++ (encode (newline depth) ++ [0x5D])) := by
  have hopen : String.utf8EncodeChar '[' = [0x5B] := rfl
  have hclose : String.utf8EncodeChar ']' = [0x5D] := rfl
  have hnil : encode [] = [] := rfl
  simp [prettyChars, hopen, hclose, hnil]

theorem encode_object (depth : Nat) (f : String × Json) (fs : List (String × Json)) :
    encode (prettyChars depth (.object (f :: fs))) =
      0x7B :: (encode (prettyFields (depth + 1) (f :: fs)) ++ (encode (newline depth) ++ [0x7D])) := by
  have hopen : String.utf8EncodeChar '\x7b' = [0x7B] := rfl
  have hclose : String.utf8EncodeChar '\x7d' = [0x7D] := rfl
  have hnil : encode [] = [] := rfl
  simp [prettyChars, hopen, hclose, hnil]

theorem stops_newline (depth : Nat) (l : List UInt8) : Stops (encode (newline depth) ++ l) :=
  stops_cons (.inr rfl) _

theorem readsBack_array {room : Nat} {vs : List Json} (h : ∀ v ∈ vs, ReadsBack room v) :
    ReadsBack (room + 1) (.array vs) := by
  cases vs with
  | nil => exact readsBack_of_step rfl fun _ => ⟨_, _, rfl, rfl, by decide, fun _ _ _ _ _ => value_empty_list⟩
  | cons v vs =>
    obtain ⟨hvalues, hitems⟩ := items_reads (List.cons_ne_nil v vs) h
    refine readsBack_of_step ?_ fun depth => ⟨_, _, encode_array depth v vs, rfl, by decide, ?_⟩
    · simp [toTree, Tree.value?, hvalues]
    · intro fuel l l₀ hl hfuel hskip
      simp only [List.length_append, List.length_cons, List.length_nil] at hfuel
      obtain ⟨fuel, rfl⟩ : ∃ k, fuel = k + 1 := ⟨fuel - 1, by omega⟩
      rw [List.append_assoc] at hskip
      obtain ⟨b, bs, hb, hne⟩ := skip_items (h v List.mem_cons_self) vs (depth + 1) ((encode (newline depth) ++ [0x5D]) ++ l)
      rw [value_list hskip hb hne, List.append_assoc, List.singleton_append]
      rw [hitems (depth + 1) fuel _ l (stops_newline depth _) (skip_newline_cons rfl depth l) (by omega)]
      rfl

theorem readsBack_object {room : Nat} {fs : List (String × Json)} (hd : (fs.map Prod.fst).Nodup)
    (h : ∀ f ∈ fs, ReadsBack room f.2) : ReadsBack (room + 1) (.object fs) := by
  cases fs with
  | nil => exact readsBack_of_step rfl fun _ => ⟨_, _, rfl, rfl, by decide, fun _ _ _ _ _ => value_empty_object⟩
  | cons f fs =>
    obtain ⟨hvalues, hmembers⟩ := members_reads (List.cons_ne_nil f fs) h
    refine readsBack_of_step ?_ fun depth => ⟨_, _, encode_object depth f fs, rfl, by decide, ?_⟩
    · simp [toTree, Tree.value?, hvalues, ofMembers_of_nodup hd]
    · intro fuel l l₀ hl hfuel hskip
      simp only [List.length_append, List.length_cons, List.length_nil] at hfuel
      obtain ⟨fuel, rfl⟩ : ∃ k, fuel = k + 1 := ⟨fuel - 1, by omega⟩
      rw [List.append_assoc] at hskip
      obtain ⟨bs, hb⟩ := skip_fields f fs (depth + 1) ((encode (newline depth) ++ [0x7D]) ++ l)
      rw [value_object hskip hb, List.append_assoc, List.singleton_append]
      rw [hmembers (depth + 1) fuel _ l (stops_newline depth _) (skip_newline_cons rfl depth l) (by omega)]
      rfl

theorem readsBack_integer {room : Nat} {n : Int} (hn : FitsWord n) : ReadsBack room (.number (.integer n)) := by
  obtain ⟨hnumber, ⟨b, bs, hbytes, hb⟩, hnumeral⟩ := numeral_text hn
  have hopens : b ≠ 0x5D := ne_of_opens hb (by decide) (by decide)
  refine readsBack_of_step ?_ fun depth => ⟨b, bs, hbytes, not_isSpace_of_opens hb, hopens, ?_⟩
  · simp [toTree, Tree.value?, hnumber]
  · intro fuel l l₀ hl _ hskip
    have hread := hnumeral l hl
    rw [hbytes, List.cons_append] at hread
    rw [value_number hskip hb, hread]
    rfl

theorem readsBack_string {room : Nat} (s : String) : ReadsBack room (.string s) := by
  refine readsBack_of_step rfl fun _ => ⟨_, _, encode_quoted s, rfl, by decide, ?_⟩
  intro fuel l l₀ _ _ hskip
  rw [List.append_assoc] at hskip
  rw [value_text hskip]
  exact congrArg _ (text_escaped s l)

theorem readsBack {room : Nat} {j : Json} (h : Written room j) : ReadsBack room j := by
  induction h with
  | null => exact readsBack_of_step rfl fun _ => ⟨_, _, rfl, rfl, by decide, fun _ _ _ _ _ => value_null⟩
  | bool b =>
    cases b with
    | true => exact readsBack_of_step rfl fun _ => ⟨_, _, rfl, rfl, by decide, fun _ _ _ _ _ => value_true⟩
    | false => exact readsBack_of_step rfl fun _ => ⟨_, _, rfl, rfl, by decide, fun _ _ _ _ _ => value_false⟩
  | integer fits => exact readsBack_integer fits
  | string s => exact readsBack_string s
  | array items ih => exact readsBack_array ih
  | object distinct fields ih => exact readsBack_object distinct ih

/-! ## Documents -/

/-- A printed value with a new line behind it, as it is written out, is a document. -/
theorem ofBytes?_pretty {room : Nat} {j : Json} (h : Written room j) :
    Tree.ofBytes? (Text.encodeString (j.pretty ++ "\n")) = some j.toTree := by
  have hj := readsBack h
  have hbytes : Text.encodeString (j.pretty ++ "\n") = encode (prettyChars 0 j) ++ [0x0A] := by
    rw [Text.encodeString, String.toList_append, pretty, String.toList_ofList, Text.encode_append]
    rfl
  have hread := hj.reads 0 (2 * (encode (prettyChars 0 j) ++ [0x0A]).length + 2) _ _ (stops_cons (.inr rfl) [])
    (by rw [List.length_append]; omega) (hj.skip_eq 0 _)
  rw [hbytes, Tree.ofBytes?, hread]
  rfl

/-- **A printed value is read back.** -/
theorem ofString?_pretty {j : Json} (h : Written depthLimit j) : ofString? (j.pretty ++ "\n") = some j := by
  rw [ofString?, ofBytes?, ofBytes?_pretty h]
  exact (readsBack h).valued

end DatastoreAccess.Json
