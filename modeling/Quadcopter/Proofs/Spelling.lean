import Quadcopter.Proofs.Preparation

/-!
# Quadcopter.Proofs.Spelling

How tokens are written, and that the lexer reads them back.

* `Spells t w`: the grammar of one token. It has no other written form than its source form
  (`Spells.eq_render`). A bare name is a command if an instruction word is spelt so, and an identifier
  if none is.
* `spells_of_read`, `read_of_spells`: the lexer reads off a line exactly such forms, up to a blank or
  the end.
* `spells_of_tokens`: every token of a line is spelt somewhere in it.
-/

namespace Quadcopter
namespace Token

open Text Decimal

/-- Whether a number may start with this character. -/
def startsNumber (c : Char) : Bool := c.isDigit || c == '+' || c == '-'

/-- The written forms of tokens. -/
inductive Spells : Token → List Char → Prop where
  | pictureRegister {digits : List Char} : digits ≠ [] → (∀ c ∈ digits, c.isDigit = true) →
      Spells ⟨.pictureRegister, String.ofList digits⟩ ('$' :: 'P' :: digits)
  | numberRegister {digits : List Char} : digits ≠ [] → (∀ c ∈ digits, c.isDigit = true) →
      Spells ⟨.numberRegister, String.ofList digits⟩ ('$' :: 'R' :: digits)
  | text {body : List Char} : '"' ∉ body → Spells ⟨.text, String.ofList body⟩ ('"' :: body ++ ['"'])
  | integer {first : Char} {digits : List Char} : startsNumber first = true →
      (∀ c ∈ digits, c.isDigit = true) →
      Spells ⟨.integer, String.ofList (first :: digits)⟩ (first :: digits)
  | float {first : Char} {digits fraction : List Char} : startsNumber first = true →
      (∀ c ∈ digits, c.isDigit = true) → (∀ c ∈ fraction, c.isDigit = true) →
      Spells ⟨.float, String.ofList (first :: digits ++ '.' :: fraction)⟩
        (first :: digits ++ '.' :: fraction)
  | command {word : Mnemonic} {first : Char} {body : List Char} : first.isAlpha = true →
      (∀ c ∈ body, c.isAlphanum = true ∨ c = '_') → String.ofList (first :: body) = word.spelling →
      Spells ⟨.command, String.ofList (first :: body)⟩ (first :: body)
  | identifier {first : Char} {body : List Char} : first.isAlpha = true →
      (∀ c ∈ body, c.isAlphanum = true ∨ c = '_') →
      (∀ word : Mnemonic, String.ofList (first :: body) ≠ word.spelling) →
      Spells ⟨.identifier, String.ofList (first :: body)⟩ (first :: body)
  | label {first : Char} {body : List Char} : first.isAlpha = true →
      (∀ c ∈ body, c.isAlphanum = true ∨ c = '_') →
      Spells ⟨.label, String.ofList (first :: body)⟩ (first :: body ++ [':'])

theorem Spells.eq_render {t : Token} {w : List Char} (h : Spells t w) : w = t.render.toList := by
  cases h <;> simp [render]

/-! ## Names -/

theorem ofName_of_spelling {s : String} {word : Mnemonic} (h : s = word.spelling) :
    ofName s = ⟨.command, s⟩ := by
  rw [ofName, h, Mnemonic.ofSpelling?_spelling]
  rfl

theorem ofName_of_ne_spelling {s : String} (h : ∀ word : Mnemonic, s ≠ word.spelling) :
    ofName s = ⟨.identifier, s⟩ := by
  cases hword : Mnemonic.ofSpelling? s with
  | none => rw [ofName, hword]; rfl
  | some word => exact absurd (Mnemonic.spelling_of_ofSpelling? hword).symm (h word)

theorem isNameChar_iff {c : Char} : isNameChar c = true ↔ c.isAlphanum = true ∨ c = '_' := by
  simp [isNameChar]

/-- A bare name spells a command or an identifier. -/
theorem spells_ofName {first : Char} {body : List Char} (hl : first.isAlpha = true)
    (hn : ∀ c ∈ body, c.isAlphanum = true ∨ c = '_') :
    Spells (ofName (String.ofList (first :: body))) (first :: body) := by
  by_cases h : ∃ word : Mnemonic, String.ofList (first :: body) = word.spelling
  · obtain ⟨word, hword⟩ := h
    rw [ofName_of_spelling hword]
    exact .command hl hn hword
  · have hword := not_exists.1 h
    rw [ofName_of_ne_spelling hword]
    exact .identifier hl hn hword

/-! ## Where tokens end -/

theorem toNat_of_isDigit {c : Char} (h : c.isDigit = true) : 48 ≤ c.toNat ∧ c.toNat ≤ 57 := by
  simpa [Char.isDigit, UInt32.le_iff_toNat_le] using h

theorem toNat_of_isAlpha {c : Char} (h : c.isAlpha = true) :
    65 ≤ c.toNat ∧ c.toNat ≤ 90 ∨ 97 ≤ c.toNat ∧ c.toNat ≤ 122 := by
  have hbounds : (decide ('A'.val ≤ c.val ∧ c.val ≤ 'Z'.val) ||
      ('a'.val ≤ c.val && c.val ≤ 'z'.val)) = true := h
  simpa [UInt32.le_iff_toNat_le] using hbounds

theorem toNat_of_isNameChar {c : Char} (h : isNameChar c = true) : 48 ≤ c.toNat ∧ c.toNat ≤ 122 := by
  simp only [isNameChar_iff, Char.isAlphanum, Bool.or_eq_true] at h
  rcases h with (h | h) | rfl
  · have := toNat_of_isAlpha h; omega
  · have := toNat_of_isDigit h; omega
  · decide

theorem toNat_of_startsNumber {c : Char} (h : startsNumber c = true) : 43 ≤ c.toNat ∧ c.toNat ≤ 57 := by
  simp only [startsNumber, Bool.or_eq_true, beq_iff_eq] at h
  rcases h with (h | rfl) | rfl
  · have := toNat_of_isDigit h; omega
  · decide
  · decide

theorem toNat_of_isBlank {c : Char} (h : isBlank c = true) : c.toNat ≤ 0x20 ∨ 0x85 ≤ c.toNat := by
  simp only [isBlank, Bool.or_eq_true, Bool.and_eq_true, decide_eq_true_eq, beq_iff_eq] at h
  omega

theorem isBlank_of_visible {c : Char} (h : 0x20 < c.toNat ∧ c.toNat < 0x80) : isBlank c = false := by
  rw [Bool.eq_false_iff]
  intro hblank
  have := toNat_of_isBlank hblank
  omega

theorem isDigit_of_isBlank {c : Char} (h : isBlank c = true) : c.isDigit = false := by
  rw [Bool.eq_false_iff]
  intro hd
  have := toNat_of_isBlank h
  have := toNat_of_isDigit hd
  omega

theorem isNameChar_of_isBlank {c : Char} (h : isBlank c = true) : isNameChar c = false := by
  rw [Bool.eq_false_iff]
  intro hn
  have := toNat_of_isBlank h
  have := toNat_of_isNameChar hn
  omega

theorem splitWhile_stop {p : Char → Bool} {a : List Char} {d : Char} (ha : ∀ c ∈ a, p c = true)
    (hd : p d = false) (rest : List Char) : splitWhile p (a ++ d :: rest) = (a, d :: rest) := by
  simp [splitWhile, List.takeWhile_append_of_pos ha, List.dropWhile_append_of_pos ha, hd]

theorem splitWhile_break {p : Char → Bool} {a rest : List Char} (ha : ∀ c ∈ a, p c = true)
    (hp : ∀ c, isBlank c = true → p c = false) (hb : atBreak rest = true) :
    splitWhile p (a ++ rest) = (a, rest) := by
  cases rest with
  | nil =>
    rw [splitWhile, List.takeWhile_append_of_pos ha, List.dropWhile_append_of_pos ha]
    simp
  | cons d rest => exact splitWhile_stop ha (hp d hb) rest

theorem forall_of_splitWhile {p : Char → Bool} {s a b : List Char} (h : splitWhile p s = (a, b)) :
    ∀ c ∈ a, p c = true := by
  cases h
  intro c hc
  exact List.all_eq_true.1 List.all_takeWhile c hc

theorem stop_of_splitWhile {p : Char → Bool} {s a rest : List Char} {d : Char}
    (h : splitWhile p s = (a, d :: rest)) : p d = false := by
  have hd := List.head?_dropWhile_not p s
  rwa [(Prod.mk.inj h).2] at hd

theorem finish_of_break {e : Cause} {t : Token} {rest : List Char} (h : atBreak rest = true) :
    finish e t rest = .ok (t, rest) := if_pos h

/-! ## Reading what is spelt -/

theorem readRegister_spelt {kind : Kind} {e : Cause} {digits rest : List Char} (hne : digits ≠ [])
    (hd : ∀ c ∈ digits, c.isDigit = true) (hb : atBreak rest = true) :
    readRegister kind e (digits ++ rest) = .ok (⟨kind, String.ofList digits⟩, rest) := by
  unfold readRegister
  rw [splitWhile_break hd (fun c => isDigit_of_isBlank) hb]
  split
  · next h => cases h; exact absurd rfl hne
  · next h => cases h; exact finish_of_break hb

theorem readText_spelt {body rest : List Char} (hq : '"' ∉ body) (hb : atBreak rest = true) :
    readText (body ++ '"' :: rest) = .ok (⟨.text, String.ofList body⟩, rest) := by
  have hp : ∀ c ∈ body, (c != '"') = true := by
    intro c hc
    rw [bne_iff_ne]
    rintro rfl
    exact hq hc
  unfold readText
  rw [splitWhile_stop hp (by decide)]
  exact finish_of_break hb

theorem readNumber_integer {first : Char} {digits rest : List Char}
    (hd : ∀ c ∈ digits, c.isDigit = true) (hb : atBreak rest = true) :
    readNumber first (digits ++ rest) = .ok (⟨.integer, String.ofList (first :: digits)⟩, rest) := by
  unfold readNumber
  rw [splitWhile_break hd (fun c => isDigit_of_isBlank) hb]
  split
  · next h => cases h; cases hb
  · next h => cases h; exact finish_of_break hb

theorem readNumber_float {first : Char} {digits fraction rest : List Char}
    (hd : ∀ c ∈ digits, c.isDigit = true) (hf : ∀ c ∈ fraction, c.isDigit = true)
    (hb : atBreak rest = true) :
    readNumber first (digits ++ '.' :: (fraction ++ rest)) =
      .ok (⟨.float, String.ofList (first :: digits ++ '.' :: fraction)⟩, rest) := by
  unfold readNumber
  rw [splitWhile_stop hd (by decide)]
  split
  · next h =>
    cases h
    rw [splitWhile_break hf (fun c => isDigit_of_isBlank) hb]
    exact finish_of_break hb
  · next hdot h => cases h; exact (hdot _ rfl).elim

theorem readName_name {first : Char} {body rest : List Char}
    (hn : ∀ c ∈ body, c.isAlphanum = true ∨ c = '_') (hb : atBreak rest = true) :
    readName first (body ++ rest) = .ok (ofName (String.ofList (first :: body)), rest) := by
  unfold readName
  rw [splitWhile_break (fun c hc => isNameChar_iff.2 (hn c hc)) (fun c => isNameChar_of_isBlank) hb]
  split
  · next h => cases h; cases hb
  · next h => cases h; exact finish_of_break hb

theorem readName_label {first : Char} {body rest : List Char}
    (hn : ∀ c ∈ body, c.isAlphanum = true ∨ c = '_') (hb : atBreak rest = true) :
    readName first (body ++ ':' :: rest) = .ok (⟨.label, String.ofList (first :: body)⟩, rest) := by
  unfold readName
  rw [splitWhile_stop (fun c hc => isNameChar_iff.2 (hn c hc)) (by decide)]
  exact finish_of_break hb

theorem read_number {c : Char} (h : startsNumber c = true) (s : List Char) :
    read c s = readNumber c s := by
  have hc := toNat_of_startsNumber h
  have hsigil : c ≠ '$' := by rintro rfl; revert hc; decide
  have hquote : c ≠ '"' := by rintro rfl; revert hc; decide
  rw [startsNumber] at h
  rw [read, if_neg hsigil, if_neg hquote, if_pos h]

theorem read_name {c : Char} (h : c.isAlpha = true) (s : List Char) : read c s = readName c s := by
  have hc := toNat_of_isAlpha h
  have hsigil : c ≠ '$' := by rintro rfl; revert hc; decide
  have hquote : c ≠ '"' := by rintro rfl; revert hc; decide
  have hnumber : ¬ startsNumber c = true := by
    intro hn
    have := toNat_of_startsNumber hn
    omega
  rw [startsNumber] at hnumber
  rw [read, if_neg hsigil, if_neg hquote, if_neg hnumber, if_pos h]

/-- A written token is read back, up to a blank or the end of the line. -/
theorem read_of_spells {t : Token} {w rest : List Char} (h : Spells t w) (hb : atBreak rest = true) :
    ∃ c s, w ++ rest = c :: s ∧ isBlank c = false ∧ read c s = .ok (t, rest) := by
  cases h with
  | pictureRegister hne hd => exact ⟨'$', _, rfl, by decide, readRegister_spelt hne hd hb⟩
  | numberRegister hne hd => exact ⟨'$', _, rfl, by decide, readRegister_spelt hne hd hb⟩
  | @text body hq =>
    refine ⟨'"', body ++ '"' :: rest, by simp, by decide, readText_spelt hq hb⟩
  | @integer first digits hs hd =>
    have := toNat_of_startsNumber hs
    refine ⟨first, digits ++ rest, rfl, isBlank_of_visible (by omega), ?_⟩
    rw [read_number hs, readNumber_integer hd hb]
  | @float first digits fraction hs hd hf =>
    have := toNat_of_startsNumber hs
    refine ⟨first, digits ++ '.' :: (fraction ++ rest), by simp, isBlank_of_visible (by omega), ?_⟩
    rw [read_number hs, readNumber_float hd hf hb]
  | @command word first body hl hn hword =>
    have := toNat_of_isAlpha hl
    refine ⟨first, body ++ rest, rfl, isBlank_of_visible (by omega), ?_⟩
    rw [read_name hl, readName_name hn hb, ofName_of_spelling hword]
  | @identifier first body hl hn hword =>
    have := toNat_of_isAlpha hl
    refine ⟨first, body ++ rest, rfl, isBlank_of_visible (by omega), ?_⟩
    rw [read_name hl, readName_name hn hb, ofName_of_ne_spelling hword]
  | @label first body hl hn =>
    have := toNat_of_isAlpha hl
    refine ⟨first, body ++ ':' :: rest, by simp, isBlank_of_visible (by omega), ?_⟩
    rw [read_name hl, readName_label hn hb]

/-- Only in a text can there be other characters than the visible ones of ASCII. -/
theorem Spells.visible {t : Token} {w : List Char} (h : Spells t w) :
    t.kind = .text ∨ ∀ c ∈ w, 0x20 < c.toNat ∧ c.toNat < 0x80 := by
  have digit : ∀ {ds : List Char}, (∀ c ∈ ds, c.isDigit = true) →
      ∀ c ∈ ds, 0x20 < c.toNat ∧ c.toNat < 0x80 := by
    intro ds hd c hc
    have := toNat_of_isDigit (hd c hc)
    omega
  have name : ∀ {first : Char} {body : List Char}, first.isAlpha = true →
      (∀ c ∈ body, c.isAlphanum = true ∨ c = '_') →
      ∀ c ∈ first :: body, 0x20 < c.toNat ∧ c.toNat < 0x80 := by
    intro first body hl hn c hc
    rcases List.mem_cons.1 hc with rfl | hc
    · have := toNat_of_isAlpha hl
      omega
    · have := toNat_of_isNameChar (isNameChar_iff.2 (hn c hc))
      omega
  cases h with
  | text => exact .inl rfl
  | pictureRegister hne hd =>
    right
    simp only [List.forall_mem_cons]
    exact ⟨by decide, by decide, digit hd⟩
  | numberRegister hne hd =>
    right
    simp only [List.forall_mem_cons]
    exact ⟨by decide, by decide, digit hd⟩
  | integer hs hd =>
    right
    have := toNat_of_startsNumber hs
    simp only [List.forall_mem_cons]
    exact ⟨by omega, digit hd⟩
  | float hs hd hf =>
    right
    have := toNat_of_startsNumber hs
    simp only [List.cons_append, List.forall_mem_cons, List.forall_mem_append]
    exact ⟨by omega, digit hd, by decide, digit hf⟩
  | command hl hn => exact .inr (name hl hn)
  | identifier hl hn => exact .inr (name hl hn)
  | label hl hn =>
    right
    rw [List.forall_mem_append]
    exact ⟨name hl hn, by simp⟩

theorem Spells.ne_nil {t : Token} {w : List Char} (h : Spells t w) : w ≠ [] := by
  cases h <;> simp

theorem Spells.trimmed {t : Token} {w : List Char} (h : Spells t w) : Trimmed w := by
  rcases h.visible with hk | hv
  · cases h with
    | @text body hq =>
      have hlast : ('"' :: body ++ ['"']).getLast? = some '"' := List.getLast?_concat
      constructor
      · intro c hc; cases hc; decide
      · intro c hc; rw [hlast] at hc; cases hc; decide
    | _ => cases hk
  · exact ⟨fun c hc => isBlank_of_visible (hv c (List.mem_of_mem_head? hc)),
      fun c hc => isBlank_of_visible (hv c (List.mem_of_mem_getLast? hc))⟩

/-! ## Spelling what is read -/

theorem spells_of_readRegister {kind : Kind} {e : Cause} {s rest : List Char} {t : Token}
    (h : readRegister kind e s = .ok (t, rest)) :
    ∃ digits, s = digits ++ rest ∧ digits ≠ [] ∧ (∀ c ∈ digits, c.isDigit = true) ∧
      t = ⟨kind, String.ofList digits⟩ ∧ atBreak rest = true := by
  unfold readRegister at h
  split at h
  · cases h
  · next digits rest' hne hs =>
    obtain ⟨rfl, rfl, hb⟩ := finish_eq_ok h
    exact ⟨digits, (splitWhile_append hs).symm, fun h0 => hne (h0 ▸ rfl), forall_of_splitWhile hs, rfl, hb⟩

theorem spells_of_readText {s rest : List Char} {t : Token} (h : readText s = .ok (t, rest)) :
    ∃ w, '"' :: s = w ++ rest ∧ Spells t w ∧ atBreak rest = true := by
  unfold readText at h
  split at h
  · cases h
  · next body q rest' hs =>
    obtain ⟨rfl, rfl, hb⟩ := finish_eq_ok h
    have hbody : '"' ∉ body := by
      intro hm
      have := forall_of_splitWhile hs _ hm
      simp at this
    have hquote : q = '"' := by simpa using stop_of_splitWhile hs
    subst hquote
    exact ⟨'"' :: body ++ ['"'], by simp [← splitWhile_append hs], .text hbody, hb⟩

theorem spells_of_readNumber {first : Char} {s rest : List Char} {t : Token}
    (hf : startsNumber first = true) (h : readNumber first s = .ok (t, rest)) :
    ∃ w, first :: s = w ++ rest ∧ Spells t w ∧ atBreak rest = true := by
  unfold readNumber at h
  split at h
  · next whole s' hs =>
    split at h
    next fraction rest' hs' =>
    obtain ⟨rfl, rfl, hb⟩ := finish_eq_ok h
    refine ⟨first :: whole ++ '.' :: fraction, ?_, ?_, hb⟩
    · rw [← splitWhile_append hs, ← splitWhile_append hs']
      simp
    · exact .float hf (forall_of_splitWhile hs) (forall_of_splitWhile hs')
  · next whole s' hdot hs =>
    obtain ⟨rfl, rfl, hb⟩ := finish_eq_ok h
    refine ⟨first :: whole, ?_, .integer hf (forall_of_splitWhile hs), hb⟩
    rw [← splitWhile_append hs]
    rfl

theorem spells_of_readName {first : Char} {s rest : List Char} {t : Token}
    (hf : first.isAlpha = true) (h : readName first s = .ok (t, rest)) :
    ∃ w, first :: s = w ++ rest ∧ Spells t w ∧ atBreak rest = true := by
  unfold readName at h
  split at h
  · next body s' hs =>
    obtain ⟨rfl, rfl, hb⟩ := finish_eq_ok h
    have hn : ∀ c ∈ body, c.isAlphanum = true ∨ c = '_' := fun c hc =>
      isNameChar_iff.1 (forall_of_splitWhile hs c hc)
    refine ⟨first :: body ++ [':'], ?_, .label hf hn, hb⟩
    rw [← splitWhile_append hs]
    simp
  · next body s' hcolon hs =>
    obtain ⟨rfl, rfl, hb⟩ := finish_eq_ok h
    have hn : ∀ c ∈ body, c.isAlphanum = true ∨ c = '_' := fun c hc =>
      isNameChar_iff.1 (forall_of_splitWhile hs c hc)
    refine ⟨first :: body, ?_, spells_ofName hf hn, hb⟩
    rw [← splitWhile_append hs]
    rfl

theorem spells_of_readSigil {s rest : List Char} {t : Token} (h : readSigil s = .ok (t, rest)) :
    ∃ w, '$' :: s = w ++ rest ∧ Spells t w ∧ atBreak rest = true := by
  unfold readSigil at h
  split at h
  · obtain ⟨digits, rfl, hne, hd, rfl, hb⟩ := spells_of_readRegister h
    exact ⟨'$' :: 'P' :: digits, rfl, .pictureRegister hne hd, hb⟩
  · obtain ⟨digits, rfl, hne, hd, rfl, hb⟩ := spells_of_readRegister h
    exact ⟨'$' :: 'R' :: digits, rfl, .numberRegister hne hd, hb⟩
  · cases h

/-- What is read is the written form of the token, and a blank or the end follows it. -/
theorem spells_of_read {c : Char} {s rest : List Char} {t : Token} (h : read c s = .ok (t, rest)) :
    ∃ w, c :: s = w ++ rest ∧ Spells t w ∧ atBreak rest = true := by
  unfold read at h
  split at h
  · next hc => subst hc; exact spells_of_readSigil h
  split at h
  · next hc => subst hc; exact spells_of_readText h
  split at h
  · next hc => exact spells_of_readNumber hc h
  split at h
  · next hc => exact spells_of_readName hc h
  · cases h

/-! ## Lines -/

theorem tokens_nil : tokens [] = .ok [] := by
  unfold tokens; rfl

theorem tokens_of_isBlank {c : Char} (h : isBlank c = true) (s : List Char) :
    tokens (c :: s) = tokens s := by
  rw [tokens.eq_def]
  exact if_pos h

theorem tokens_of_read {c : Char} {s rest : List Char} {t : Token} {ts : List Token}
    (hc : isBlank c = false) (hr : read c s = .ok (t, rest)) (hts : tokens rest = .ok ts) :
    tokens (c :: s) = .ok (t :: ts) := by
  unfold tokens
  rw [if_neg (by simp [hc])]
  split
  · next hr' => rw [hr] at hr'; cases hr'
  · next hr' => rw [hr] at hr'; cases hr'; rw [hts]

theorem tokens_of_spells {t : Token} {w rest : List Char} {ts : List Token} (h : Spells t w)
    (hb : atBreak rest = true) (hts : tokens rest = .ok ts) : tokens (w ++ rest) = .ok (t :: ts) := by
  obtain ⟨c, s, hw, hc, hr⟩ := read_of_spells h hb
  rw [hw]
  exact tokens_of_read hc hr hts

/-- Every token of a line is spelt by characters of the line. -/
theorem spells_of_tokens {s : List Char} {ts : List Token} (h : tokens s = .ok ts) :
    ∀ t ∈ ts, ∃ w, Spells t w ∧ ∀ c ∈ w, c ∈ s := by
  fun_induction tokens s generalizing ts with
  | case1 => cases h; simp
  | case2 c s hc ih =>
    intro t ht
    obtain ⟨w, hw, hsub⟩ := ih h t ht
    exact ⟨w, hw, fun d hd => List.mem_cons_of_mem c (hsub d hd)⟩
  | case3 => cases h
  | case4 => cases h
  | case5 c s hc t rest hr us hus ih =>
    cases h
    obtain ⟨w, hw, hspell, -⟩ := spells_of_read hr
    intro u hu
    rw [hw]
    rcases List.mem_cons.1 hu with rfl | hu
    · exact ⟨w, hspell, fun d hd => List.mem_append_left rest hd⟩
    · obtain ⟨w', hw', hsub⟩ := ih hus u hu
      exact ⟨w', hw', fun d hd => List.mem_append_right w (hsub d hd)⟩

end Token
end Quadcopter
