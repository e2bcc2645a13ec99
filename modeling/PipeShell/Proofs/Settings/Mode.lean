import Mathlib.Data.List.Basic
import Mathlib.Data.Nat.Digits.Defs
import PipeShell.Proofs.Text.Trimming
import PipeShell.Settings.Basic

/-!
# Modes as they are written

A `Settings.ModeText` is a way to write a mode: white space, marks `0o`, perhaps a plus sign, octal
digits with any number of zeros before them, and white space. `Settings.parseMode` reads exactly
what is written so and is not too large (`parseMode_eq_some_iff`). Its sums and products have 32
bits; a number that has more is refused and never taken for a smaller one (`octalFrom_eq_some_iff`).
-/

namespace PipeShell

namespace Settings

/-! ## Digits -/

/-- The character of an octal digit. -/
def digitChar (d : Fin 8) : Char := Char.ofNat (0x30 + d)

/-- The number that digits write behind those of `n`. -/
def written (n : Nat) : List (Fin 8) → Nat
  | [] => n
  | d :: digits => written (d + 8 * n) digits

theorem written_eq_foldl (n : Nat) (digits : List (Fin 8)) :
    written n digits = (digits.map Fin.val).foldl (fun n d => d + 8 * n) n := by
  induction digits generalizing n with
  | nil => rfl
  | cons d digits ih => exact ih _

theorem written_zero (digits : List (Fin 8)) :
    written 0 digits = Nat.ofDigits 8 (digits.map Fin.val).reverse := by
  rw [written_eq_foldl, Nat.ofDigits_eq_foldr, List.foldr_reverse]
  rfl

theorem le_written (n : Nat) (digits : List (Fin 8)) : n ≤ written n digits := by
  induction digits generalizing n with
  | nil => exact Nat.le_refl n
  | cons d digits ih =>
    have := ih (d + 8 * n)
    rw [written]
    omega

@[simp]
theorem toNat_digitChar (d : Fin 8) : (digitChar d).toNat = 48 + d := by
  revert d
  decide

theorem digitChar_inj : Function.Injective digitChar := by
  unfold Function.Injective
  decide

theorem not_isBlankChar_digitChar (d : Fin 8) : Text.isBlankChar (digitChar d) = false := by
  revert d
  decide

theorem notMem_digits {c : Char} (h : ∀ d, digitChar d ≠ c) (digits : List (Fin 8)) :
    c ∉ digits.map digitChar := by
  rw [List.mem_map]
  rintro ⟨d, -, hd⟩
  exact h d hd

theorem octalDigit?_digitChar (d : Fin 8) : octalDigit? (digitChar d) = some (.ofNat d) := by
  revert d
  decide

theorem exists_digitChar {c : Char} {x : UInt32} (h : octalDigit? c = some x) :
    ∃ d, c = digitChar d ∧ x.toNat = d := by
  unfold octalDigit? at h
  split at h
  · next hc =>
    cases h
    rw [Bool.and_eq_true, decide_eq_true_eq, decide_eq_true_eq, Char.le_def, Char.le_def,
      UInt32.le_iff_toNat_le, UInt32.le_iff_toNat_le] at hc
    obtain ⟨hlow, hhigh⟩ := hc
    have hzero : '0'.val.toNat = 48 := rfl
    have hseven : '7'.val.toNat = 55 := rfl
    have hsub : (c.val - '0'.val).toNat = c.val.toNat - 48 :=
      UInt32.toNat_sub_of_le _ _ (UInt32.le_iff_toNat_le.mpr hlow)
    refine ⟨⟨c.val.toNat - 48, by omega⟩, Char.toNat_inj.mp ?_, hsub⟩
    rw [toNat_digitChar, Char.toNat, Fin.val_mk]
    omega
  · cases h

/-! ## Numbers of 32 bits -/

theorem checkedMul_eq_some_iff {a b c : UInt32} :
    checkedMul a b = some c ↔ c.toNat = a.toNat * b.toNat := by
  unfold checkedMul
  have hc := c.toNat_lt_size
  split
  · next h =>
    rw [Option.some_inj, ← UInt32.toNat_inj, UInt32.toNat_mul, Nat.mod_eq_of_lt h, eq_comm]
  · next h => exact ⟨nofun, fun heq => absurd (heq ▸ hc) h⟩

theorem checkedAdd_eq_some_iff {a b c : UInt32} :
    checkedAdd a b = some c ↔ c.toNat = a.toNat + b.toNat := by
  unfold checkedAdd
  have hc := c.toNat_lt_size
  split
  · next h =>
    rw [Option.some_inj, ← UInt32.toNat_inj, UInt32.toNat_add, Nat.mod_eq_of_lt h, eq_comm]
  · next h => exact ⟨nofun, fun heq => absurd (heq ▸ hc) h⟩

/-- The number that is read is the one that is written. -/
theorem octalFrom_eq_some_iff {n bits : UInt32} {text : List Char} :
    octalFrom n text = some bits ↔
      ∃ digits, text = digits.map digitChar ∧ bits.toNat = written n.toNat digits := by
  induction text generalizing n with
  | nil =>
    rw [octalFrom, Option.some_inj, ← UInt32.toNat_inj]
    constructor
    · intro h
      exact ⟨[], rfl, h.symm⟩
    · rintro ⟨digits, hnil, h⟩
      rw [List.map_eq_nil_iff.mp hnil.symm] at h
      exact h.symm
  | cons c text ih =>
    simp only [octalFrom, Option.bind_eq_bind, Option.bind_eq_some_iff, checkedMul_eq_some_iff,
      checkedAdd_eq_some_iff, ih]
    constructor
    · rintro ⟨shifted, hshifted, x, hx, next, hnext, digits, rfl, hbits⟩
      obtain ⟨d, rfl, hd⟩ := exists_digitChar hx
      refine ⟨d :: digits, rfl, hbits.trans ?_⟩
      rw [hnext, hshifted, hd, Nat.add_comm, Nat.mul_comm]
      rfl
    · rintro ⟨_ | ⟨d, digits⟩, htext, hbits⟩
      · cases htext
      obtain ⟨rfl, rfl⟩ := List.cons.inj htext
      -- no product and no sum on the way is larger than the number that is written
      have hle := le_written (d + 8 * n.toNat) digits
      have hlt := bits.toNat_lt_size
      rw [hbits, written] at hlt
      have hof (k : Nat) (hk : k ≤ d + 8 * n.toNat) : (UInt32.ofNat k).toNat = k :=
        UInt32.toNat_ofNat_of_lt' (by omega)
      refine ⟨.ofNat (n.toNat * 8), hof _ (by omega), _, octalDigit?_digitChar d,
        .ofNat (d + 8 * n.toNat), ?_, digits, rfl, ?_⟩
      · rw [hof _ (Nat.le_refl _), hof _ (by omega), hof d.val (by omega)]
        omega
      · rw [hof _ (Nat.le_refl _), hbits]
        rfl

theorem octal?_eq_some_iff {bits : UInt32} {text : List Char} :
    octal? text = some bits ↔ ∃ digits ≠ [], text = digits.map digitChar ∧
      bits.toNat = Nat.ofDigits 8 (digits.map Fin.val).reverse := by
  unfold octal?
  split
  · next hempty =>
    rw [List.isEmpty_iff] at hempty
    subst hempty
    refine ⟨nofun, ?_⟩
    rintro ⟨digits, hne, hnil, -⟩
    exact absurd (List.map_eq_nil_iff.mp hnil.symm) hne
  · next hne =>
    rw [octalFrom_eq_some_iff]
    refine exists_congr fun digits => ?_
    rw [← written_zero]
    refine ⟨?_, fun h => h.2⟩
    rintro ⟨rfl, h⟩
    exact ⟨by simpa using hne, rfl, h⟩

/-! ## What stands around the digits -/

/-- A way to write a mode. -/
structure ModeText where
  left : List Char
  /-- The number of marks `0o`. -/
  marks : Nat
  signed : Bool
  digits : List (Fin 8)
  right : List Char
  left_blank : ∀ c ∈ left, Text.isBlankChar c = true
  digits_ne_nil : digits ≠ []
  right_blank : ∀ c ∈ right, Text.isBlankChar c = true

/-- A number of marks `0o`. -/
def octalMarks : Nat → List Char
  | 0 => []
  | n + 1 => '0' :: 'o' :: octalMarks n

/-- A plus sign that may stand before the digits. -/
def sign (signed : Bool) : List Char := if signed then ['+'] else []

namespace ModeText

/-- A mode as it is written, without white space. -/
def inner (t : ModeText) : List Char :=
  octalMarks t.marks ++ (sign t.signed ++ t.digits.map digitChar)

/-- A mode as it is written. -/
def text (t : ModeText) : List Char := t.left ++ t.inner ++ t.right

/-- The number that is written. -/
def value (t : ModeText) : Nat := Nat.ofDigits 8 (t.digits.map Fin.val).reverse

end ModeText

theorem exists_octalMarks (text : List Char) : ∃ n, text = octalMarks n ++ dropOctalMarks text := by
  fun_induction dropOctalMarks text with
  | case1 rest ih =>
    obtain ⟨n, hn⟩ := ih
    exact ⟨n + 1, congrArg ('0' :: 'o' :: ·) hn⟩
  | case2 rest => exact ⟨0, rfl⟩

theorem exists_sign (text : List Char) : ∃ signed, text = sign signed ++ dropSign text := by
  unfold dropSign
  split
  · exact ⟨true, rfl⟩
  · exact ⟨false, rfl⟩

theorem dropOctalMarks_of_notMem {text : List Char} (h : 'o' ∉ text) :
    dropOctalMarks text = text := by
  unfold dropOctalMarks
  split
  · simp at h
  · rfl

theorem dropOctalMarks_append {text : List Char} (h : 'o' ∉ text) (n : Nat) :
    dropOctalMarks (octalMarks n ++ text) = text := by
  induction n with
  | zero => exact dropOctalMarks_of_notMem h
  | succ n ih => exact ih

theorem dropSign_append {text : List Char} (h : '+' ∉ text) (signed : Bool) :
    dropSign (sign signed ++ text) = text := by
  cases signed with
  | true => rfl
  | false =>
    change dropSign text = text
    unfold dropSign
    split
    · simp at h
    · rfl

theorem o_notMem_sign (signed : Bool) : 'o' ∉ sign signed := by
  cases signed <;> decide

theorem not_isBlankChar_of_mem_octalMarks {n : Nat} {c : Char} (h : c ∈ octalMarks n) :
    Text.isBlankChar c = false := by
  induction n with
  | zero => cases h
  | succ n ih =>
    rw [octalMarks, List.mem_cons, List.mem_cons] at h
    rcases h with rfl | rfl | h
    · decide
    · decide
    · exact ih h

theorem not_isBlankChar_of_mem_sign {signed : Bool} {c : Char} (h : c ∈ sign signed) :
    Text.isBlankChar c = false := by
  cases signed with
  | true =>
    obtain rfl := List.mem_singleton.mp h
    decide
  | false => cases h

namespace ModeText

theorem not_isBlankChar_of_mem_inner {t : ModeText} {c : Char} (h : c ∈ t.inner) :
    Text.isBlankChar c = false := by
  rw [inner, List.mem_append, List.mem_append, List.mem_map] at h
  obtain h | h | ⟨d, -, rfl⟩ := h
  · exact not_isBlankChar_of_mem_octalMarks h
  · exact not_isBlankChar_of_mem_sign h
  · exact not_isBlankChar_digitChar d

theorem trim_text (t : ModeText) : Text.trim t.text = t.inner := by
  have hinner : Text.trimBy Text.isBlankChar t.inner = t.inner :=
    Text.trimBy_of_forall_not fun _ => not_isBlankChar_of_mem_inner
  exact (Text.trimBy_eq_iff hinner).mpr ⟨t.left, t.right, rfl, t.left_blank, t.right_blank⟩

theorem drop_text (t : ModeText) :
    dropSign (dropOctalMarks (Text.trim t.text)) = t.digits.map digitChar := by
  have ho : 'o' ∉ sign t.signed ++ t.digits.map digitChar := by
    rw [List.mem_append, not_or]
    exact ⟨o_notMem_sign _, notMem_digits (by decide) _⟩
  rw [trim_text, inner, dropOctalMarks_append ho, dropSign_append (notMem_digits (by decide) _)]

theorem value_eq {t t' : ModeText} (h : t.text = t'.text) : t.value = t'.value := by
  have hdigits := t.drop_text.symm.trans (h ▸ t'.drop_text)
  rw [value, value, List.map_injective_iff.mpr digitChar_inj hdigits]

/-- What is left of a text when white space, marks and sign are dropped are digits exactly if it is
a way to write a mode. -/
theorem exists_text {v : List Char} {digits : List (Fin 8)} (hne : digits ≠ [])
    (h : dropSign (dropOctalMarks (Text.trim v)) = digits.map digitChar) :
    ∃ t : ModeText, t.text = v ∧ t.digits = digits := by
  obtain ⟨left, right, hv, hleft, hright⟩ := Text.exists_trimBy Text.isBlankChar v
  obtain ⟨marks, hmarks⟩ := exists_octalMarks (Text.trim v)
  obtain ⟨signed, hsign⟩ := exists_sign (dropOctalMarks (Text.trim v))
  refine ⟨⟨left, marks, signed, digits, right, hleft, hne, hright⟩, ?_, rfl⟩
  rw [text, inner]
  simp only
  rw [← h, ← hsign, ← hmarks]
  exact hv.symm

end ModeText

/-! ## Reading modes -/

/-- Masking takes nothing off a mode. -/
theorem and_maxMode {n : Nat} (h : n ≤ maxMode) : n &&& maxMode = n := by
  have hmask := Nat.and_two_pow_sub_one_eq_mod n 12
  rw [Nat.mod_eq_of_lt (by unfold maxMode at h; omega)] at hmask
  exact hmask

theorem parseMode_eq_some_iff {v : List Char} {n : Nat} :
    parseMode v = some n ↔ ∃ t : ModeText, t.text = v ∧ t.value = n ∧ n ≤ maxMode := by
  simp only [parseMode, Option.bind_eq_bind, Option.bind_eq_some_iff, octal?_eq_some_iff]
  constructor
  · rintro ⟨bits, ⟨digits, hne, htext, hbits⟩, h⟩
    split at h
    · cases h
    next hle =>
    rw [Nat.not_lt] at hle
    rw [and_maxMode hle, Option.some_inj] at h
    subst h
    obtain ⟨t, ht, rfl⟩ := ModeText.exists_text hne htext
    exact ⟨t, ht, hbits.symm, hle⟩
  · rintro ⟨t, rfl, rfl, hle⟩
    have hbits : (UInt32.ofNat t.value).toNat = t.value :=
      UInt32.toNat_ofNat_of_lt' (Nat.lt_of_le_of_lt hle (by decide))
    refine ⟨.ofNat t.value, ⟨t.digits, t.digits_ne_nil, t.drop_text, hbits⟩, ?_⟩
    rw [hbits, if_neg (Nat.not_lt.mpr hle), and_maxMode hle]

theorem parseMode_of_too_large {t : ModeText} (h : maxMode < t.value) :
    parseMode t.text = none := by
  by_contra hsome
  obtain ⟨n, hn⟩ := Option.ne_none_iff_exists'.mp hsome
  obtain ⟨t', htext, rfl, hle⟩ := parseMode_eq_some_iff.mp hn
  rw [ModeText.value_eq htext] at hle
  omega

end Settings

end PipeShell
