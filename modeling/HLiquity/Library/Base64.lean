import Mathlib.Data.Fin.Basic
import Mathlib.Data.List.Basic

/-!
# Base 64

Three bytes are encoded in four digits. A last group of one or two bytes is padded, so that the
padding tells the length of the bytes modulo three.
-/

namespace Base64

def pad : Char := '='

/-- The digit of a value below 64. -/
def digit (value : Nat) : Char :=
  if value < 26 then Char.ofNat ('A'.toNat + value)
  else if value < 52 then Char.ofNat ('a'.toNat + (value - 26))
  else if value < 62 then Char.ofNat ('0'.toNat + (value - 52))
  else if value = 62 then '+'
  else '/'

def encode : List Nat → List Char
  | [] => []
  | [a] => [digit (a / 4), digit (a % 4 * 16), pad, pad]
  | [a, b] => [digit (a / 4), digit (a % 4 * 16 + b / 16), digit (b % 16 * 4), pad]
  | a :: b :: c :: rest =>
      digit (a / 4) :: digit (a % 4 * 16 + b / 16) :: digit (b % 16 * 4 + c / 64) ::
        digit (c % 64) :: encode rest

/-- The value of a digit. -/
def valueOf (c : Char) : Nat :=
  if c.isUpper then c.toNat - 'A'.toNat
  else if c.isLower then c.toNat - 'a'.toNat + 26
  else if c.isDigit then c.toNat - '0'.toNat + 52
  else if c = '+' then 62
  else 63

theorem valueOf_digit {value : Nat} (h : value < 64) : valueOf (digit value) = value := by
  have hall : ∀ value : Fin 64, valueOf (digit value) = value := by decide
  exact hall ⟨value, h⟩

/-- Letters, figures, and two signs. -/
def IsDigit (c : Char) : Prop := c.isAlphanum = true ∨ c = '+' ∨ c = '/'

instance (c : Char) : Decidable (IsDigit c) :=
  inferInstanceAs (Decidable (c.isAlphanum = true ∨ c = '+' ∨ c = '/'))

theorem isDigit_digit {value : Nat} (h : value < 64) : IsDigit (digit value) := by
  have hall : ∀ value : Fin 64, IsDigit (digit value) := by decide
  exact hall ⟨value, h⟩

theorem not_isDigit_pad : ¬ IsDigit pad := by decide

theorem digit_ne_pad {value : Nat} (h : value < 64) : digit value ≠ pad := by
  intro heq
  have hdigit := isDigit_digit h
  rw [heq] at hdigit
  exact not_isDigit_pad hdigit

/-- The four values of a group of bytes are below 64. -/
theorem group_lt {a b c : Nat} (ha : a < 256) (hb : b < 256) (hc : c < 256) :
    a / 4 < 64 ∧ a % 4 * 16 + b / 16 < 64 ∧ b % 16 * 4 + c / 64 < 64 ∧ c % 64 < 64 := by
  omega

theorem isDigit_of_mem_encode {bytes : List Nat} (h : ∀ byte ∈ bytes, byte < 256) {c : Char}
    (hmem : c ∈ encode bytes) : IsDigit c ∨ c = pad := by
  induction bytes using encode.induct with
  | case1 => cases hmem
  | case2 a =>
      have hlt := group_lt (h a (by simp)) (b := 0) (c := 0) (by decide) (by decide)
      simp only [encode, List.mem_cons, List.not_mem_nil, or_false] at hmem
      rcases hmem with rfl | rfl | rfl | rfl
      · exact .inl (isDigit_digit hlt.1)
      · exact .inl (isDigit_digit hlt.2.1)
      · exact .inr rfl
      · exact .inr rfl
  | case3 a b =>
      have hlt := group_lt (h a (by simp)) (h b (by simp)) (c := 0) (by decide)
      simp only [encode, List.mem_cons, List.not_mem_nil, or_false] at hmem
      rcases hmem with rfl | rfl | rfl | rfl
      · exact .inl (isDigit_digit hlt.1)
      · exact .inl (isDigit_digit hlt.2.1)
      · exact .inl (isDigit_digit hlt.2.2.1)
      · exact .inr rfl
  | case4 a b c' rest ih =>
      have hlt := group_lt (h a (by simp)) (h b (by simp)) (h c' (by simp))
      simp only [encode, List.mem_cons] at hmem
      rcases hmem with rfl | rfl | rfl | rfl | hrest
      · exact .inl (isDigit_digit hlt.1)
      · exact .inl (isDigit_digit hlt.2.1)
      · exact .inl (isDigit_digit hlt.2.2.1)
      · exact .inl (isDigit_digit hlt.2.2.2)
      · exact ih (fun byte hbyte => h byte (by simp [hbyte])) hrest

/-- An encoding has padding unless its bytes come in groups of three. -/
theorem pad_mem_encode_iff {bytes : List Nat} (h : ∀ byte ∈ bytes, byte < 256) :
    pad ∈ encode bytes ↔ bytes.length % 3 ≠ 0 := by
  induction bytes using encode.induct with
  | case1 => simp [encode]
  | case2 a => simp [encode]
  | case3 a b => simp [encode]
  | case4 a b c rest ih =>
      have hlt := group_lt (h a (by simp)) (h b (by simp)) (h c (by simp))
      have hlength : (a :: b :: c :: rest).length % 3 = rest.length % 3 := by
        simp only [List.length_cons]
        omega
      rw [hlength, ← ih fun byte hbyte => h byte (by simp [hbyte])]
      simp [encode, (digit_ne_pad hlt.1).symm, (digit_ne_pad hlt.2.1).symm,
        (digit_ne_pad hlt.2.2.1).symm, (digit_ne_pad hlt.2.2.2).symm]

theorem encode_ne_nil {bytes : List Nat} (h : bytes ≠ []) : encode bytes ≠ [] := by
  unfold encode
  split
  · exact absurd rfl h
  · exact List.cons_ne_nil _ _
  · exact List.cons_ne_nil _ _
  · exact List.cons_ne_nil _ _

def decode : List Char → List Nat
  | first :: second :: third :: fourth :: rest =>
      let a := valueOf first * 4 + valueOf second / 16
      let b := valueOf second % 16 * 16 + valueOf third / 4
      let c := valueOf third % 4 * 64 + valueOf fourth
      if third = pad then [a] else if fourth = pad then [a, b] else a :: b :: c :: decode rest
  | _ => []

theorem decode_encode {bytes : List Nat} (h : ∀ byte ∈ bytes, byte < 256) :
    decode (encode bytes) = bytes := by
  induction bytes using encode.induct with
  | case1 => rfl
  | case2 a =>
      have ha := h a (by simp)
      have hlt := group_lt (c := 0) ha (b := 0) (by decide) (by decide)
      have hfirst := valueOf_digit hlt.1
      have hsecond : valueOf (digit (a % 4 * 16)) = a % 4 * 16 := valueOf_digit hlt.2.1
      rw [encode, decode, if_pos rfl, hfirst, hsecond]
      congr 1
      omega
  | case3 a b =>
      have ha := h a (by simp)
      have hb := h b (by simp)
      have hlt := group_lt ha hb (c := 0) (by decide)
      have hthird : valueOf (digit (b % 16 * 4)) = b % 16 * 4 := valueOf_digit hlt.2.2.1
      have hpad : digit (b % 16 * 4) ≠ pad := digit_ne_pad hlt.2.2.1
      rw [encode, decode, if_neg hpad, if_pos rfl, valueOf_digit hlt.1, valueOf_digit hlt.2.1,
        hthird]
      congr 1
      · omega
      · congr 1
        omega
  | case4 a b c rest ih =>
      have ha := h a (by simp)
      have hb := h b (by simp)
      have hc := h c (by simp)
      have hlt := group_lt ha hb hc
      rw [encode, decode, if_neg (digit_ne_pad hlt.2.2.1), if_neg (digit_ne_pad hlt.2.2.2),
        valueOf_digit hlt.1, valueOf_digit hlt.2.1, valueOf_digit hlt.2.2.1,
        valueOf_digit hlt.2.2.2, ih fun byte hbyte => h byte (by simp [hbyte])]
      congr 1
      · omega
      · congr 1
        · omega
        · congr 1
          omega

theorem encode_injective {bytes other : List Nat} (h : ∀ byte ∈ bytes, byte < 256)
    (hother : ∀ byte ∈ other, byte < 256) (heq : encode bytes = encode other) :
    bytes = other := by
  rw [← decode_encode h, heq, decode_encode hother]

end Base64
