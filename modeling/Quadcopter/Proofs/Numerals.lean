import Mathlib.Data.List.Induction
import Mathlib.Data.Nat.Digits.Defs
import Quadcopter.Proofs.Digitwise
import Quadcopter.Proofs.Spelling

/-!
# Quadcopter.Proofs.Numerals

What the texts of integers mean, however many digits they have.

* `Numeral`: an integer as it is written. Its value is the sum of its digits, each times the power of ten
  of its place.
* `lexed_integer_iff`, `lexed_register_iff`: the texts that the lexer gives to integers and registers are
  those of the numerals.
* `integerLiteral_numeral`, `registerIndex_numeral`: a numeral is read as its value or refused.
* `lex_render`: a word that is written is read back.
-/

namespace Quadcopter

open Decimal

/-- The signs that may stand before digits. -/
inductive Sign where
  | plus
  | minus
  deriving DecidableEq, Repr

def Sign.mark : Sign → Char
  | .plus => '+'
  | .minus => '-'

/-- An integer as it is written: digits, of which there may be none if there is a sign. -/
structure Numeral where
  sign : Option Sign
  digits : List (Fin 10)
  written : sign = none → digits ≠ []

namespace Numeral

def digitText (digits : List (Fin 10)) : List Char := digits.map fun d => Nat.digitChar d.val

def text (n : Numeral) : String := String.ofList ((n.sign.map Sign.mark).toList ++ digitText n.digits)

/-- The number that digits make up, the last one counting once. -/
def magnitude (digits : List (Fin 10)) : Nat := Nat.ofDigits 10 (digits.map Fin.val).reverse

/-- The number that the text stands for. -/
def value (n : Numeral) : Int :=
  if n.sign = some .minus then -(magnitude n.digits : Int) else magnitude n.digits

/-! ## Digits -/

theorem isDigit_digitChar (d : Fin 10) : (Nat.digitChar d.val).isDigit = true := by
  revert d
  decide

theorem digitValue_digitChar (d : Fin 10) : digitValue (Nat.digitChar d.val) = d.val := by
  revert d
  decide

theorem exists_digitChar {c : Char} (h : c.isDigit = true) : ∃ d : Fin 10, Nat.digitChar d.val = c := by
  have hc := Token.toNat_of_isDigit h
  refine ⟨⟨c.toNat - 48, by omega⟩, ?_⟩
  apply Char.toNat_inj.1
  rw [Nat.toNat_digitChar_of_lt_ten (by dsimp only; omega)]
  exact Nat.add_sub_of_le hc.1

theorem isDigit_digitText (digits : List (Fin 10)) : ∀ c ∈ digitText digits, c.isDigit = true := by
  intro c hc
  obtain ⟨d, -, rfl⟩ := List.mem_map.1 hc
  exact isDigit_digitChar d

theorem exists_digitText {s : List Char} (h : ∀ c ∈ s, c.isDigit = true) :
    ∃ digits, digitText digits = s := by
  induction s with
  | nil => exact ⟨[], rfl⟩
  | cons c s ih =>
    obtain ⟨hc, hs⟩ := List.forall_mem_cons.1 h
    obtain ⟨d, rfl⟩ := exists_digitChar hc
    obtain ⟨digits, rfl⟩ := ih hs
    exact ⟨d :: digits, rfl⟩

theorem digitText_eq_nil {digits : List (Fin 10)} : digitText digits = [] ↔ digits = [] :=
  List.map_eq_nil_iff

/-- Taking the digits from the left, ten times as much for each further one, gives the sum by places. -/
theorem digitsValue_digitText (digits : List (Fin 10)) :
    digitsValue (digitText digits) = magnitude digits := by
  induction digits using List.reverseRecOn with
  | nil => rfl
  | append_singleton digits d ih =>
    have hsplit : digitText (digits ++ [d]) = digitText digits ++ [Nat.digitChar d.val] := by
      simp [digitText]
    rw [hsplit, digitsValue_append, ih, digitValue_digitChar]
    simp [magnitude, Nat.ofDigits_cons, Nat.add_comm]

theorem natural?_digitText (digits : List (Fin 10)) :
    natural? (digitText digits) = if digits = [] then none else some (magnitude digits) := by
  have hall : (digitText digits).all Char.isDigit = true := List.all_eq_true.2 (isDigit_digitText digits)
  by_cases hd : digits = []
  · simp [natural?, hd, digitText]
  · rw [natural?, if_pos ⟨mt digitText_eq_nil.1 hd, hall⟩, if_neg hd, digitsValue_digitText]

/-! ## Texts -/

theorem toList_text (n : Numeral) :
    n.text.toList = (n.sign.map Sign.mark).toList ++ digitText n.digits := String.toList_ofList

theorem splitSign_of_isDigit {c : Char} (h : c.isDigit = true) (s : List Char) :
    splitSign (c :: s) = (false, c :: s) := by
  unfold splitSign
  split
  · next hminus => cases hminus; exact absurd h (by decide)
  · next hplus => cases hplus; exact absurd h (by decide)
  · rfl

theorem splitSign_text (n : Numeral) :
    splitSign n.text.toList = (n.sign == some .minus, digitText n.digits) := by
  rw [toList_text]
  obtain ⟨sign, digits, written⟩ := n
  cases sign with
  | none =>
    cases digits with
    | nil => exact absurd rfl (written rfl)
    | cons d digits => exact splitSign_of_isDigit (isDigit_digitChar d) _
  | some sign => cases sign <;> rfl

theorem integer?_text (n : Numeral) :
    integer? n.text.toList = if n.digits = [] then none else some n.value := by
  rw [integer?, splitSign_text]
  simp only [natural?_digitText]
  by_cases hd : n.digits = []
  · simp [hd]
  · simp [hd, value]

theorem index?_text (n : Numeral) :
    index? n.text.toList =
      if n.digits = [] ∨ n.sign = some .minus then none else some (magnitude n.digits) := by
  rw [index?, splitSign_text]
  by_cases hs : n.sign = some .minus
  · simp [hs]
  · have hplus : (n.sign == some .minus) = false := beq_false_of_ne hs
    simp only [hplus, natural?_digitText, hs, or_false]

theorem value_of_not_minus {n : Numeral} (h : n.sign ≠ some .minus) : n.value = magnitude n.digits := if_neg h

end Numeral

/-! ## What the lexer gives -/

/-- Some line has the token. -/
def Token.Lexed (t : Token) : Prop := ∃ line ts, Token.lex line = .ok ts ∧ t ∈ ts

namespace Token

open Numeral (digitText)

theorem lex_of_spells {t : Token} {w : List Char} (h : Spells t w) :
    lex (String.ofList w) = .ok [t] := by
  have hread : tokens (w ++ []) = .ok [t] := tokens_of_spells h rfl tokens_nil
  rwa [List.append_nil, ← @String.toList_ofList w] at hread

theorem lexed_iff_spells {t : Token} : t.Lexed ↔ ∃ w, Spells t w := by
  constructor
  · rintro ⟨line, ts, hlex, ht⟩
    obtain ⟨w, hw, -⟩ := spells_of_tokens hlex t ht
    exact ⟨w, hw⟩
  · rintro ⟨w, hw⟩
    exact ⟨_, _, lex_of_spells hw, List.mem_singleton_self t⟩

theorem numeral_of_startsNumber {first : Char} {digits : List Char} (hs : startsNumber first = true)
    (hd : ∀ c ∈ digits, c.isDigit = true) : ∃ n : Numeral, n.text = String.ofList (first :: digits) := by
  simp only [startsNumber, Bool.or_eq_true, beq_iff_eq] at hs
  obtain ⟨rest, rfl⟩ := Numeral.exists_digitText hd
  rcases hs with (hfirst | rfl) | rfl
  · obtain ⟨d, rfl⟩ := Numeral.exists_digitChar hfirst
    exact ⟨⟨none, d :: rest, fun _ => List.cons_ne_nil _ _⟩, rfl⟩
  · exact ⟨⟨some .plus, rest, fun h => absurd h (Option.some_ne_none _)⟩, rfl⟩
  · exact ⟨⟨some .minus, rest, fun h => absurd h (Option.some_ne_none _)⟩, rfl⟩

theorem spells_numeral (n : Numeral) : Spells ⟨.integer, n.text⟩ n.text.toList := by
  rw [Numeral.toList_text]
  obtain ⟨sign, digits, written⟩ := n
  have hdigits := Numeral.isDigit_digitText digits
  cases sign with
  | none =>
    cases digits with
    | nil => exact absurd rfl (written rfl)
    | cons d digits =>
      obtain ⟨hd, hrest⟩ := List.forall_mem_cons.1 hdigits
      have hstart : startsNumber (Nat.digitChar d.val) = true := by rw [startsNumber, hd]; rfl
      exact .integer hstart hrest
  | some sign =>
    cases sign with
    | plus => exact @Spells.integer '+' _ (by decide) hdigits
    | minus => exact @Spells.integer '-' _ (by decide) hdigits

/-- The texts of integers are the numerals. -/
theorem lexed_integer_iff {text : String} :
    Lexed ⟨.integer, text⟩ ↔ ∃ n : Numeral, n.text = text := by
  rw [lexed_iff_spells]
  constructor
  · rintro ⟨w, hw⟩
    generalize ht : (⟨.integer, text⟩ : Token) = t at hw
    cases hw with
    | integer hs hd =>
      cases ht
      exact numeral_of_startsNumber hs hd
    | _ => cases ht
  · rintro ⟨n, rfl⟩
    exact ⟨_, spells_numeral n⟩

theorem numeral_of_digits {digits : List Char} (hne : digits ≠ []) (hd : ∀ c ∈ digits, c.isDigit = true) :
    ∃ n : Numeral, n.sign = none ∧ n.text = String.ofList digits := by
  obtain ⟨ds, rfl⟩ := Numeral.exists_digitText hd
  exact ⟨⟨none, ds, fun _ => mt Numeral.digitText_eq_nil.2 hne⟩, rfl, rfl⟩

theorem spells_register {n : Numeral} (hsign : n.sign = none) :
    Spells ⟨.numberRegister, n.text⟩ ('$' :: 'R' :: digitText n.digits) ∧
      Spells ⟨.pictureRegister, n.text⟩ ('$' :: 'P' :: digitText n.digits) := by
  have htext : n.text = String.ofList (digitText n.digits) := by simp [Numeral.text, hsign]
  have hne := mt Numeral.digitText_eq_nil.1 (n.written hsign)
  have hd := Numeral.isDigit_digitText n.digits
  rw [htext]
  exact ⟨.numberRegister hne hd, .pictureRegister hne hd⟩

/-- The texts of registers are the numerals without a sign. -/
theorem lexed_register_iff {kind : Kind} (hkind : kind = .numberRegister ∨ kind = .pictureRegister)
    {text : String} : Lexed ⟨kind, text⟩ ↔ ∃ n : Numeral, n.sign = none ∧ n.text = text := by
  rw [lexed_iff_spells]
  constructor
  · rintro ⟨w, hw⟩
    generalize ht : (⟨kind, text⟩ : Token) = t at hw
    cases hw with
    | pictureRegister hne hd | numberRegister hne hd =>
      cases ht
      exact numeral_of_digits hne hd
    | _ => cases ht; simp at hkind
  · rintro ⟨n, hsign, rfl⟩
    obtain ⟨hnumber, hpicture⟩ := spells_register hsign
    rcases hkind with rfl | rfl
    · exact ⟨_, hnumber⟩
    · exact ⟨_, hpicture⟩

end Token

/-! ## What the readers give -/

/-- Where it is possible the result is right, and elsewhere a fault of this wording. -/
def Yields {α : Type} (result : Except Cause α) (possible : Prop) (right : α → Prop) (fault : String) :
    Prop :=
  (possible → ∃ a, result = .ok a ∧ right a) ∧
    (¬ possible → ∃ cause, result = .error cause ∧ cause.text = fault)

theorem Yields.map {α β : Type} {result : Except Cause α} {possible : Prop} {right : α → Prop}
    {right' : β → Prop} {fault : String} (h : Yields result possible right fault) (f : α → β)
    (hf : ∀ a, right a → right' (f a)) : Yields (result.map f) possible right' fault := by
  constructor
  · intro hp
    obtain ⟨a, ha, hright⟩ := h.1 hp
    exact ⟨f a, by rw [ha]; rfl, hf a hright⟩
  · intro hp
    obtain ⟨cause, hcause, htext⟩ := h.2 hp
    exact ⟨cause, by rw [hcause]; rfl, htext⟩

namespace Numeral

theorem integerLiteral_numeral (n : Numeral) :
    Yields (integerLiteral n.text) (n.digits ≠ [] ∧ IsWord n.value)
      (fun v => ∃ x : Int64, v = .int x ∧ x.toInt = n.value) "INVALID NUMERIC LITERAL" := by
  rw [integerLiteral, integer?_text]
  by_cases hd : n.digits = []
  · simp only [if_pos hd]
    exact ⟨fun h => absurd hd h.1, fun _ => ⟨_, rfl, rfl⟩⟩
  · simp only [if_neg hd]
    by_cases hv : IsWord n.value
    · rw [if_pos (inRange_iff.2 hv)]
      exact ⟨fun _ => ⟨_, rfl, _, rfl, Arith.toInt_ofInt hv⟩, fun h => absurd ⟨hd, hv⟩ h⟩
    · rw [if_neg (mt inRange_iff.1 hv)]
      exact ⟨fun h => absurd h.2 hv, fun _ => ⟨_, rfl, rfl⟩⟩

theorem registerIndex_numeral (size : Nat) (n : Numeral) :
    Yields (registerIndex size n.text) (n.digits ≠ [] ∧ n.sign ≠ some .minus ∧ n.value < size)
      (fun r => (r.val : Int) = n.value) "NON-EXISTENT REGISTER" := by
  rw [registerIndex, index?_text]
  by_cases hn : n.digits = [] ∨ n.sign = some .minus
  · simp only [if_pos hn]
    refine ⟨?_, fun _ => ⟨_, rfl, rfl⟩⟩
    rintro ⟨hd, hs, -⟩
    rcases hn with hn | hn
    · exact absurd hn hd
    · exact absurd hn hs
  · obtain ⟨hd, hs⟩ := not_or.1 hn
    have hvalue := value_of_not_minus hs
    simp only [if_neg hn, hvalue, Int.ofNat_lt]
    by_cases hlt : magnitude n.digits < size
    · rw [dif_pos hlt]
      exact ⟨fun _ => ⟨_, rfl, rfl⟩, fun h => absurd ⟨hd, hs, hlt⟩ h⟩
    · rw [dif_neg hlt]
      exact ⟨fun h => absurd h.2.2 hlt, fun _ => ⟨_, rfl, rfl⟩⟩

open Token (numeric displayable destination faceRegister numberRegister pictureRegister)

/-- What an integer is in the places where it may stand: a value, where a result goes, and a face. -/
structure ReadAsInteger (n : Numeral) : Prop where
  value : Yields (numeric ⟨.integer, n.text⟩) (n.digits ≠ [] ∧ IsWord n.value)
    (fun source => ∃ x : Int64, source = .literal (.int x) ∧ x.toInt = n.value) "INVALID NUMERIC LITERAL"
  shown : Yields (displayable ⟨.integer, n.text⟩) (n.digits ≠ [] ∧ IsWord n.value)
    (fun what => ∃ x : Int64, what = .number (.literal (.int x)) ∧ x.toInt = n.value)
    "INVALID NUMERIC LITERAL"
  destination : Yields (destination ⟨.integer, n.text⟩)
    (n.digits ≠ [] ∧ n.sign ≠ some .minus ∧ n.value < 16) (fun r => (r.val : Int) = n.value)
    "NON-EXISTENT REGISTER"
  face : Yields (faceRegister ⟨.integer, n.text⟩)
    (n.digits ≠ [] ∧ n.sign ≠ some .minus ∧ n.value < 8) (fun r => (r.val : Int) = n.value)
    "NON-EXISTENT REGISTER"

/-- What a register is in the places where it may stand. -/
structure ReadAsRegister (n : Numeral) : Prop where
  number : Yields (numberRegister ⟨.numberRegister, n.text⟩) (n.value < 16)
    (fun r => (r.val : Int) = n.value) "NON-EXISTENT REGISTER"
  destination : Yields (destination ⟨.numberRegister, n.text⟩) (n.value < 16)
    (fun r => (r.val : Int) = n.value) "NON-EXISTENT REGISTER"
  value : Yields (numeric ⟨.numberRegister, n.text⟩) (n.value < 16)
    (fun source => ∃ r, source = .register r ∧ (r.val : Int) = n.value) "NON-EXISTENT REGISTER"
  shown : Yields (displayable ⟨.numberRegister, n.text⟩) (n.value < 16)
    (fun what => ∃ r, what = .number (.register r) ∧ (r.val : Int) = n.value) "NON-EXISTENT REGISTER"
  picture : Yields (pictureRegister ⟨.pictureRegister, n.text⟩) (n.value < 8)
    (fun p => (p.val : Int) = n.value) "NON-EXISTENT REGISTER"
  shownPicture : Yields (displayable ⟨.pictureRegister, n.text⟩) (n.value < 8)
    (fun what => ∃ p, what = .picture p ∧ (p.val : Int) = n.value) "NON-EXISTENT REGISTER"

theorem readAsInteger (n : Numeral) : n.ReadAsInteger := by
  have hvalue : Yields (numeric ⟨.integer, n.text⟩) (n.digits ≠ [] ∧ IsWord n.value)
      (fun source => ∃ x : Int64, source = .literal (.int x) ∧ x.toInt = n.value)
      "INVALID NUMERIC LITERAL" := by
    refine n.integerLiteral_numeral.map Operand.literal ?_
    rintro _ ⟨x, rfl, hx⟩
    exact ⟨x, rfl, hx⟩
  refine ⟨hvalue, hvalue.map Shown.number ?_, registerIndex_numeral 16 n, registerIndex_numeral 8 n⟩
  rintro _ ⟨x, rfl, hx⟩
  exact ⟨x, rfl, hx⟩

theorem registerIndex_unsigned {n : Numeral} (hsign : n.sign = none) (size : Nat) :
    Yields (registerIndex size n.text) (n.value < size) (fun r => (r.val : Int) = n.value)
      "NON-EXISTENT REGISTER" := by
  have h := registerIndex_numeral size n
  rwa [and_iff_right (n.written hsign), and_iff_right (by simp [hsign])] at h

theorem readAsRegister {n : Numeral} (hsign : n.sign = none) : n.ReadAsRegister := by
  have hnumber := registerIndex_unsigned hsign numberCount
  have hpicture := registerIndex_unsigned hsign pictureCount
  have hvalue : Yields (numeric ⟨.numberRegister, n.text⟩) (n.value < 16)
      (fun source => ∃ r, source = .register r ∧ (r.val : Int) = n.value) "NON-EXISTENT REGISTER" :=
    hnumber.map Operand.register fun r hr => ⟨r, rfl, hr⟩
  refine ⟨hnumber, hnumber, hvalue, hvalue.map Shown.number ?_, hpicture,
    hpicture.map Shown.picture fun p hp => ⟨p, rfl, hp⟩⟩
  rintro _ ⟨r, rfl, hr⟩
  exact ⟨r, rfl, hr⟩

/-! ## Written values -/

theorem isDigit_of_mem_natText {k : Nat} {c : Char} (h : c ∈ natText k) : c.isDigit = true :=
  Nat.isDigit_of_mem_toDigits (by decide) (by decide) h

theorem digitsValue_natText (k : Nat) : digitsValue (natText k) = k :=
  Nat.ofDigitChars_toDigits (by decide) (by decide)

/-- Every integer is written as a numeral that has it as its value. -/
theorem exists_intText (x : Int) : ∃ n : Numeral, n.text = Value.intText x ∧ n.digits ≠ [] ∧ n.value = x := by
  obtain ⟨digits, hdigits⟩ := exists_digitText fun c (hc : c ∈ natText x.natAbs) => isDigit_of_mem_natText hc
  have hne : digits ≠ [] := by
    rintro rfl
    exact Nat.toDigits_ne_nil hdigits.symm
  have hmagnitude : magnitude digits = x.natAbs := by
    rw [← digitsValue_digitText, hdigits, digitsValue_natText]
  by_cases hx : x < 0
  · refine ⟨⟨some .minus, digits, fun _ => hne⟩, ?_, hne, ?_⟩
    · simp [text, Value.intText, signText, hx, hdigits, Sign.mark]
    · simp only [value, hmagnitude, if_true]
      omega
  · refine ⟨⟨none, digits, fun _ => hne⟩, ?_, hne, ?_⟩
    · simp [text, Value.intText, signText, hx, hdigits]
    · simp only [value, hmagnitude, reduceCtorEq, if_false]
      omega

end Numeral

/-- A word is written as one integer, which is read as this word. -/
theorem lex_render (x : Int64) :
    Token.lex (Value.int x).render = .ok [⟨.integer, (Value.int x).render⟩] ∧
      Token.numeric ⟨.integer, (Value.int x).render⟩ = .ok (.literal (.int x)) := by
  obtain ⟨n, htext, hdigits, hvalue⟩ := Numeral.exists_intText x.toInt
  have hrender : (Value.int x).render = n.text := htext.symm
  rw [hrender]
  constructor
  · have hlex := Token.lex_of_spells (Token.spells_numeral n)
    rwa [String.ofList_toList] at hlex
  · have hword : IsWord n.value := hvalue ▸ Arith.isWord_toInt x
    obtain ⟨_, hread, y, rfl, hy⟩ := n.readAsInteger.value.1 ⟨hdigits, hword⟩
    rw [hread, Int64.toInt_inj.1 (hy.trans hvalue)]

/-- The texts of integers are the numerals, and the texts of registers those without a sign. In each place
where one may stand it is read as its value or refused. Every word is written as one integer, which is read
as this word. Literals and registers are read just as in words of 64 bits, signed and unsigned, with reading
given up where a number on the way is none. -/
theorem integers_mean_values :
    (∀ text, Token.Lexed ⟨.integer, text⟩ ↔ ∃ n : Numeral, n.text = text) ∧
    (∀ n : Numeral, n.ReadAsInteger) ∧
    (∀ kind text, kind = .numberRegister ∨ kind = .pictureRegister →
      (Token.Lexed ⟨kind, text⟩ ↔ ∃ n : Numeral, n.sign = none ∧ n.text = text)) ∧
    (∀ n : Numeral, n.sign = none → n.ReadAsRegister) ∧
    (∀ x : Int64, Token.lex (Value.int x).render = .ok [⟨.integer, (Value.int x).render⟩] ∧
      Token.numeric ⟨.integer, (Value.int x).render⟩ = .ok (.literal (.int x))) ∧
    (∀ text x, integerLiteral text = .ok (.int x) ↔ Span.words.parse? text.toList = some x.toInt) ∧
    ∀ text size (r : Fin size), size ≤ 18446744073709551616 →
      (registerIndex size text = .ok r ↔ Span.counts.parse? text.toList = some (r.val : Int)) := by
  refine ⟨fun _ => Token.lexed_integer_iff, Numeral.readAsInteger, ?_, ?_, lex_render,
    fun _ _ => integerLiteral_eq_ok_iff, ?_⟩
  · intro kind text hkind
    exact Token.lexed_register_iff hkind
  · intro n hsign
    exact Numeral.readAsRegister hsign
  · intro text size r hsize
    exact registerIndex_eq_ok_iff hsize

/-- A register with a zero in front, the least word, and a number that would be 1 if it could wrap around. -/
theorem integers_mean_values_edges :
    let n : Numeral := ⟨none, [0, 1, 5], by decide⟩
    n.sign = none ∧ n.value = 15 ∧ Token.Lexed ⟨.numberRegister, "015"⟩ ∧
      (∃ r, Token.numberRegister ⟨.numberRegister, "015"⟩ = .ok r ∧ (r.val : Int) = n.value) ∧
      integerLiteral "-9223372036854775808" = .ok (.int Int64.minValue) ∧
      16 ≤ 18446744073709551616 ∧ ∀ r : Fin 16, registerIndex 16 "18446744073709551617" ≠ .ok r := by
  intro n
  obtain ⟨-, -, hlexed, hread, -, hwords, hcounts⟩ := integers_mean_values
  have htext : n.text = "015" := by decide
  have hnumber := (hread n rfl).number.1 (by decide)
  rw [htext] at hnumber
  refine ⟨rfl, by decide, (hlexed _ _ (.inl rfl)).2 ⟨n, rfl, htext⟩, hnumber, (hwords _ _).2 (by decide),
    by decide, ?_⟩
  intro r hr
  have hgiven : Span.counts.parse? "18446744073709551617".toList = none := by decide
  rw [hcounts _ _ r (by decide), hgiven] at hr
  cases hr

end Quadcopter
