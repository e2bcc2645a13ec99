import Mathlib.Data.List.Basic
import Mathlib.Tactic.Common
import PipeShell.Text.Utf8

/-!
# Scrubbed text

`Utf8.scrub` replaces what is ill-formed in a byte string. The result is well-formed
(`isValid_scrub`), and what is well-formed stays as it is (`scrub_of_isValid`), so nothing changes
when a text is scrubbed twice. Nothing but the bytes of U+FFFD is added (`mem_scrub`) and nothing
vanishes altogether (`scrub_ne_nil`).

A byte below 0x80 is a character of its own wherever it stands (`pieces_append_ascii`), so a text
may be cut there and each part be looked at alone. A text is the encoding of its characters
(`encode_chars`).
-/

namespace PipeShell

namespace Utf8

variable {b lo hi : UInt8} {n : Nat} {xs ys bs : Bytes}

/-! ## Continuation bytes -/

theorem continuation_le (lo hi : UInt8) (n : Nat) (bs : Bytes) :
    continuation lo hi n bs ≤ bs.length := by
  fun_induction continuation lo hi n bs with
  | case3 => simpa
  | _ => simp

/-- No byte below 0x80 continues a character. -/
theorem continuation_append_ascii (hb : b < 0x80) (hlo : 0x80 ≤ lo) (hi : UInt8) (n : Nat)
    (xs ys : Bytes) : continuation lo hi n (xs ++ b :: ys) = continuation lo hi n xs := by
  induction xs generalizing lo hi n with
  | nil =>
    have hlt : ¬lo ≤ b := UInt8.not_le.mpr (UInt8.lt_of_lt_of_le hb hlo)
    cases n <;> simp [continuation, hlt]
  | cons c xs ih =>
    cases n with
    | zero => rfl
    | succ n => simp only [List.cons_append, continuation, ih (UInt8.le_refl _)]

/-- All that a character needs is enough, whatever comes after it. -/
theorem continuation_take_append (lo hi : UInt8) (n : Nat) (bs ys : Bytes)
    (h : continuation lo hi n bs = n) : continuation lo hi n (bs.take n ++ ys) = n := by
  fun_induction continuation lo hi n bs with
  | case1 => rfl
  | case2 => cases h
  | case3 lo hi n b rest hb ih =>
    rw [List.take_succ_cons, List.cons_append, continuation, if_pos hb, ih (by omega)]
  | case4 => cases h

/-! ## The first piece -/

theorem le_of_tailOf (h : tailOf b = some (lo, hi, n)) : 0x80 ≤ lo := by
  unfold tailOf at h
  split_ifs at h <;> cases h <;> decide

theorem tailOf_ascii (hb : b < 0x80) : tailOf b = some (0x80, 0xBF, 0) := by
  rw [tailOf, if_pos hb]

theorem extent_le (b : UInt8) (rest : Bytes) : (extent b rest).1 ≤ rest.length := by
  unfold extent
  split
  · exact Nat.zero_le _
  · exact continuation_le _ _ _ _

theorem extent_append_ascii (hb : b < 0x80) (c : UInt8) (xs ys : Bytes) :
    extent c (xs ++ b :: ys) = extent c xs := by
  unfold extent
  cases hc : tailOf c with
  | none => rfl
  | some t =>
    obtain ⟨lo, hi, n⟩ := t
    simp only [continuation_append_ascii hb (le_of_tailOf hc)]

/-- A character stays one whatever comes after it. -/
theorem extent_take_append {rest : Bytes} (h : (extent b rest).2 = true) (ys : Bytes) :
    extent b (rest.take (extent b rest).1 ++ ys) = extent b rest := by
  unfold extent at h ⊢
  cases hb : tailOf b with
  | none => rfl
  | some t =>
    obtain ⟨lo, hi, n⟩ := t
    simp only [hb, beq_iff_eq] at h ⊢
    rw [h, continuation_take_append lo hi n rest ys h]

theorem pieces_cons (b : UInt8) (rest : Bytes) :
    pieces (b :: rest) = ⟨b :: rest.take (extent b rest).1, (extent b rest).2⟩ ::
      pieces (rest.drop (extent b rest).1) := by
  rw [pieces]

theorem pieces_nil : pieces [] = [] := by
  rw [pieces]

/-- A byte below 0x80 is a character of its own. -/
theorem pieces_ascii (hb : b < 0x80) (rest : Bytes) :
    pieces (b :: rest) = ⟨[b], true⟩ :: pieces rest := by
  have he : extent b rest = (0, true) := by
    rw [extent, tailOf_ascii hb]
    rfl
  rw [pieces_cons, he]
  rfl

/-- A text can be cut before a byte below 0x80. -/
theorem pieces_append_ascii (hb : b < 0x80) (xs ys : Bytes) :
    pieces (xs ++ b :: ys) = pieces xs ++ pieces (b :: ys) := by
  induction hn : xs.length using Nat.strongRecOn generalizing xs with
  | ind n ih =>
    cases xs with
    | nil => simp [pieces_nil]
    | cons c xs =>
      have hle := extent_le c xs
      rw [List.cons_append, pieces_cons, pieces_cons c xs, extent_append_ascii hb,
        List.take_append_of_le_length hle, List.drop_append_of_le_length hle, List.cons_append,
        ih _ ?_ _ rfl]
      subst hn
      simp only [List.length_drop, List.length_cons]
      omega

/-! ## All pieces -/

theorem flatMap_bytes_pieces (bs : Bytes) : (pieces bs).flatMap Piece.bytes = bs := by
  fun_induction pieces bs with
  | case1 => rfl
  | case2 b rest e ih =>
    rw [List.flatMap_cons, ih, List.cons_append, List.take_append_drop]

/-- A well-formed piece is one wherever it stands. -/
theorem pieces_append {p : Piece} (hp : p ∈ pieces bs) (hw : p.wellFormed = true) (ys : Bytes) :
    pieces (p.bytes ++ ys) = p :: pieces ys := by
  fun_induction pieces bs with
  | case1 => cases hp
  | case2 b rest e ih =>
    rcases List.mem_cons.mp hp with rfl | hp
    · have he := extent_take_append hw ys
      have hlen : (rest.take e.1).length = e.1 := List.length_take_of_le (extent_le b rest)
      rw [List.cons_append, pieces_cons, he, List.take_append_of_le_length (Nat.le_of_eq hlen.symm),
        List.drop_append_of_le_length (Nat.le_of_eq hlen.symm), List.take_take, Nat.min_self,
        List.drop_take_self, List.nil_append]
    · exact ih hp

theorem pieces_replacement (ys : Bytes) :
    pieces (replacement ++ ys) = ⟨replacement, true⟩ :: pieces ys := by
  have he : extent 0xEF ([0xBF, 0xBD] ++ ys) = (2, true) := by
    simp [extent, tailOf, continuation]
  rw [replacement, List.cons_append, pieces_cons, he]
  rfl

/-! ## Validity -/

@[simp] theorem isValid_nil : isValid [] = true := by
  rw [isValid, pieces_nil]
  rfl

theorem isValid_append_ascii (hb : b < 0x80) (xs ys : Bytes) :
    isValid (xs ++ b :: ys) = (isValid xs && isValid ys) := by
  rw [isValid, pieces_append_ascii hb, List.all_append, pieces_ascii hb, List.all_cons]
  rfl

theorem isValid_ascii (hb : b < 0x80) (ys : Bytes) : isValid (b :: ys) = isValid ys := by
  rw [isValid, pieces_ascii hb, List.all_cons]
  rfl

/-- What is well-formed is shown as it is. -/
theorem scrub_of_isValid (h : isValid bs = true) : scrub bs = bs := by
  have hall := List.all_eq_true.mp h
  calc scrub bs = (pieces bs).flatMap Piece.bytes := by
        refine List.flatMap_congr fun p hp => ?_
        rw [Piece.shown, if_pos (hall p hp)]
    _ = bs := flatMap_bytes_pieces bs

/-- What is shown is well-formed. -/
theorem isValid_scrub (bs : Bytes) : isValid (scrub bs) = true := by
  have hshown (ps : List Piece) (hps : ∀ p ∈ ps, p ∈ pieces bs) :
      isValid (ps.flatMap Piece.shown) = true := by
    induction ps with
    | nil =>
      rw [List.flatMap_nil, isValid, pieces_nil]
      rfl
    | cons p ps ih =>
      obtain ⟨hp, hps⟩ := List.forall_mem_cons.mp hps
      have hrest : (pieces (ps.flatMap Piece.shown)).all (·.wellFormed) = true := ih hps
      rw [List.flatMap_cons, isValid, Piece.shown]
      split
      · next hw => rw [pieces_append hp hw, List.all_cons, hw, hrest, Bool.and_self]
      · rw [pieces_replacement, List.all_cons, hrest, Bool.and_self]
  exact hshown (pieces bs) fun _ hp => hp

@[simp] theorem scrub_scrub (bs : Bytes) : scrub (scrub bs) = scrub bs :=
  scrub_of_isValid (isValid_scrub bs)

/-! ## What is shown -/

theorem scrub_ne_nil (h : bs ≠ []) : scrub bs ≠ [] := by
  cases bs with
  | nil => exact absurd rfl h
  | cons b rest =>
    rw [scrub, pieces_cons, List.flatMap_cons, Piece.shown]
    split <;> simp [replacement]

/-- What is shown was there before, or belongs to U+FFFD. -/
theorem mem_scrub (h : b ∈ scrub bs) : b ∈ bs ∨ b ∈ replacement := by
  obtain ⟨p, hp, hb⟩ := List.mem_flatMap.mp h
  rw [Piece.shown] at hb
  split at hb
  · left
    rw [← flatMap_bytes_pieces bs]
    exact List.mem_flatMap.mpr ⟨p, hp, hb⟩
  · exact Or.inr hb

/-! ## Characters -/

/-- All the bytes that a character needs are there. -/
theorem exists_of_continuation {rest : Bytes} (h : continuation lo hi (n + 1) rest = n + 1) :
    ∃ c rest', rest = c :: rest' ∧ lo ≤ c ∧ c ≤ hi ∧ continuation 0x80 0xBF n rest' = n := by
  cases rest with
  | nil => simp [continuation] at h
  | cons c rest =>
    simp only [continuation] at h
    split_ifs at h with hc
    · rw [Bool.and_eq_true, decide_eq_true_iff, decide_eq_true_iff] at hc
      exact ⟨c, rest, rfl, hc.1, hc.2, Nat.succ_inj.mp h⟩

/-- What the first byte says about the bytes after it. -/
theorem tailOf_cases (h : tailOf b = some (lo, hi, n)) :
    n = 0 ∧ b.toNat < 0x80 ∨
      n = 1 ∧ 0xC2 ≤ b.toNat ∧ b.toNat < 0xE0 ∧ 0x80 ≤ lo.toNat ∧ hi.toNat ≤ 0xBF ∨
      n = 2 ∧ 0xE0 ≤ b.toNat ∧ b.toNat < 0xF0 ∧ 0x80 ≤ lo.toNat ∧ hi.toNat ≤ 0xBF ∧
        (b.toNat = 0xE0 → 0xA0 ≤ lo.toNat) ∧ (b.toNat = 0xED → hi.toNat ≤ 0x9F) ∨
      n = 3 ∧ 0xF0 ≤ b.toNat ∧ b.toNat ≤ 0xF4 ∧ 0x80 ≤ lo.toNat ∧ hi.toNat ≤ 0xBF ∧
        (b.toNat = 0xF0 → 0x90 ≤ lo.toNat) ∧ (b.toNat = 0xF4 → hi.toNat ≤ 0x8F) := by
  simp only [tailOf, beq_iff_eq, UInt8.lt_iff_toNat_lt, ← UInt8.toNat_inj] at h
  split_ifs at h <;> cases h <;> simp_all
  all_goals omega

theorem toNat_val_ofNat {v : Nat} (h : v.isValidChar) : (Char.ofNat v).val.toNat = v := by
  rw [Char.ofNat, dif_pos h]
  rfl

variable {c d e : UInt8}

theorem utf8EncodeChar_two (hb : 0xC2 ≤ b.toNat ∧ b.toNat < 0xE0)
    (hc : 0x80 ≤ c.toNat ∧ c.toNat ≤ 0xBF) :
    String.utf8EncodeChar (Char.ofNat (codePoint [b, c])) = [b, c] := by
  have hv : codePoint [b, c] = b.toNat % 32 * 64 + c.toNat % 64 := by
    simp only [codePoint, pushBits, List.foldl_cons, List.foldl_nil, UInt8.lt_iff_toNat_lt]
    rw [if_neg (by simp; omega), if_pos (by simp; omega)]
  have hvalid : (codePoint [b, c]).isValidChar := by
    rw [hv, Nat.isValidChar]
    omega
  rw [hv] at hvalid ⊢
  simp only [String.utf8EncodeChar, toNat_val_ofNat hvalid]
  rw [if_neg (by omega), if_pos (by omega)]
  simp only [List.cons.injEq, ← UInt8.toNat_inj, UInt8.toNat_ofNat', and_true]
  omega

theorem utf8EncodeChar_three (hb : 0xE0 ≤ b.toNat ∧ b.toNat < 0xF0)
    (hc : 0x80 ≤ c.toNat ∧ c.toNat ≤ 0xBF) (hd : 0x80 ≤ d.toNat ∧ d.toNat ≤ 0xBF)
    (hlo : b.toNat = 0xE0 → 0xA0 ≤ c.toNat) (hhi : b.toNat = 0xED → c.toNat ≤ 0x9F) :
    String.utf8EncodeChar (Char.ofNat (codePoint [b, c, d])) = [b, c, d] := by
  have hv : codePoint [b, c, d] = (b.toNat % 16 * 64 + c.toNat % 64) * 64 + d.toNat % 64 := by
    simp only [codePoint, pushBits, List.foldl_cons, List.foldl_nil, UInt8.lt_iff_toNat_lt]
    rw [if_neg (by simp; omega), if_neg (by simp; omega), if_pos (by simp; omega)]
  have hvalid : (codePoint [b, c, d]).isValidChar := by
    rw [hv, Nat.isValidChar]
    omega
  rw [hv] at hvalid ⊢
  simp only [String.utf8EncodeChar, toNat_val_ofNat hvalid]
  rw [if_neg (by omega), if_neg (by omega), if_pos (by omega)]
  simp only [List.cons.injEq, ← UInt8.toNat_inj, UInt8.toNat_ofNat', and_true]
  omega

theorem utf8EncodeChar_four (hb : 0xF0 ≤ b.toNat ∧ b.toNat ≤ 0xF4)
    (hc : 0x80 ≤ c.toNat ∧ c.toNat ≤ 0xBF) (hd : 0x80 ≤ d.toNat ∧ d.toNat ≤ 0xBF)
    (he : 0x80 ≤ e.toNat ∧ e.toNat ≤ 0xBF)
    (hlo : b.toNat = 0xF0 → 0x90 ≤ c.toNat) (hhi : b.toNat = 0xF4 → c.toNat ≤ 0x8F) :
    String.utf8EncodeChar (Char.ofNat (codePoint [b, c, d, e])) = [b, c, d, e] := by
  have hv : codePoint [b, c, d, e] =
      ((b.toNat % 8 * 64 + c.toNat % 64) * 64 + d.toNat % 64) * 64 + e.toNat % 64 := by
    simp only [codePoint, pushBits, List.foldl_cons, List.foldl_nil, UInt8.lt_iff_toNat_lt]
    rw [if_neg (by simp; omega), if_neg (by simp; omega), if_neg (by simp; omega)]
  have hvalid : (codePoint [b, c, d, e]).isValidChar := by
    rw [hv, Nat.isValidChar]
    omega
  rw [hv] at hvalid ⊢
  simp only [String.utf8EncodeChar, toNat_val_ofNat hvalid]
  rw [if_neg (by omega), if_neg (by omega), if_neg (by omega)]
  simp only [List.cons.injEq, ← UInt8.toNat_inj, UInt8.toNat_ofNat', and_true]
  omega

/-- Encoding the character of a well-formed piece gives its bytes. -/
theorem utf8EncodeChar_char {rest : Bytes} (h : (extent b rest).2 = true) :
    String.utf8EncodeChar (Char.ofNat (codePoint (b :: rest.take (extent b rest).1))) =
      b :: rest.take (extent b rest).1 := by
  unfold extent at h ⊢
  cases hb : tailOf b with
  | none => simp [hb] at h
  | some t =>
    obtain ⟨lo, hi, n⟩ := t
    simp only [hb, beq_iff_eq] at h ⊢
    rw [h]
    rcases tailOf_cases hb with ⟨rfl, hr⟩ | ⟨rfl, hr⟩ | ⟨rfl, hr⟩ | ⟨rfl, hr⟩
    · have hvalid : b.toNat.isValidChar := Or.inl (by omega)
      have hv : codePoint [b] = b.toNat := by
        simp only [codePoint, List.foldl_nil, UInt8.lt_iff_toNat_lt]
        rw [if_pos (by simpa using hr)]
      rw [List.take_zero, hv, String.utf8EncodeChar, toNat_val_ofNat hvalid, if_pos (by omega),
        UInt8.ofNat_toNat]
    · obtain ⟨c, rest, rfl, hlo, hhi, -⟩ := exists_of_continuation h
      rw [UInt8.le_iff_toNat_le] at hlo hhi
      exact utf8EncodeChar_two ⟨hr.1, hr.2.1⟩ (by omega)
    · obtain ⟨c, rest, rfl, hlo, hhi, h⟩ := exists_of_continuation h
      obtain ⟨d, rest, rfl, hlo', hhi', -⟩ := exists_of_continuation h
      rw [UInt8.le_iff_toNat_le] at hlo hhi hlo' hhi'
      exact utf8EncodeChar_three ⟨hr.1, hr.2.1⟩ (by omega) ⟨hlo', hhi'⟩ (by omega) (by omega)
    · obtain ⟨c, rest, rfl, hlo, hhi, h⟩ := exists_of_continuation h
      obtain ⟨d, rest, rfl, hlo', hhi', h⟩ := exists_of_continuation h
      obtain ⟨e, rest, rfl, hlo'', hhi'', -⟩ := exists_of_continuation h
      rw [UInt8.le_iff_toNat_le] at hlo hhi hlo' hhi' hlo'' hhi''
      exact utf8EncodeChar_four ⟨hr.1, hr.2.1⟩ (by omega) ⟨hlo', hhi'⟩ ⟨hlo'', hhi''⟩ (by omega)
        (by omega)

/-- A text is the encoding of its characters. -/
theorem encode_chars (h : isValid bs = true) : encode (chars bs) = bs := by
  fun_induction pieces bs with
  | case1 => simp [chars, encode, pieces_nil]
  | case2 b rest e ih =>
    rw [isValid, pieces_cons, List.all_cons, Bool.and_eq_true] at h
    have hchar : Piece.char ⟨b :: rest.take (extent b rest).1, (extent b rest).2⟩ =
        Char.ofNat (codePoint (b :: rest.take (extent b rest).1)) := by
      rw [Piece.char, if_pos h.1]
    rw [chars, pieces_cons, List.map_cons, encode, List.flatMap_cons, hchar,
      utf8EncodeChar_char h.1]
    have hrest : encode (chars (rest.drop e.1)) = rest.drop e.1 := ih h.2
    rw [encode, chars] at hrest
    rw [hrest, List.cons_append, List.take_append_drop]

/-- The bytes of a character of a text are bytes of the text. -/
theorem mem_of_mem_chars {c : Char} (h : isValid bs = true) (hc : c ∈ chars bs)
    (hb : b ∈ String.utf8EncodeChar c) : b ∈ bs := by
  rw [← encode_chars h]
  exact List.mem_flatMap.mpr ⟨c, hc, hb⟩

end Utf8

end PipeShell
