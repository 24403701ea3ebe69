import Mathlib.Data.List.Forall2
import Quadcopter.Proofs.Spelling

/-!
# Quadcopter.Proofs.Layout

The grammar of a line, and that the lexer accepts exactly the lines of this grammar.

* `LaidOut words s`: the words one after the other, with white space between each two and perhaps at the
  ends.
* `tokens_of_laidOut`, `laidOut_of_tokens`: the lexer reads off tokens exactly if written forms of them are
  laid out in the line.
* `tokens_renderAll`: tokens that can be spelt are read back from their source form.
* `lex_grammar`: the lexer accepts the grammar, and refuses any other line with a fault of its own family.
-/

namespace Quadcopter

namespace Text

/-- Words one after the other, with white space between each two. -/
inductive Separated : List (List Char) → List Char → Prop where
  | nil : Separated [] []
  | one (w : List Char) : Separated [w] w
  | cons {w w' gap s : List Char} {words : List (List Char)} : gap ≠ [] →
      (∀ c ∈ gap, isBlank c = true) → Separated (w' :: words) s →
      Separated (w :: w' :: words) (w ++ gap ++ s)

/-- The text of a line that holds these words: perhaps there is white space before and after them. -/
def LaidOut (words : List (List Char)) (s : List Char) : Prop :=
  ∃ before body after, (∀ c ∈ before, isBlank c = true) ∧ Separated words body ∧
    (∀ c ∈ after, isBlank c = true) ∧ s = before ++ body ++ after

theorem Separated.head? {w body : List Char} {words : List (List Char)}
    (h : Separated (w :: words) body) (hw : w ≠ []) : body.head? = w.head? := by
  cases h with
  | one => rfl
  | cons => simp [List.head?_append_of_ne_nil _ hw]

theorem Separated.mem {words : List (List Char)} {body : List Char} (h : Separated words body) {c : Char}
    (hc : c ∈ body) : isBlank c = true ∨ ∃ w ∈ words, c ∈ w := by
  induction h with
  | nil => cases hc
  | one w => exact .inr ⟨w, List.mem_singleton_self w, hc⟩
  | cons _ hgap _ ih =>
    simp only [List.mem_append, or_assoc] at hc
    rcases hc with hc | hc | hc
    · exact .inr ⟨_, List.mem_cons_self, hc⟩
    · exact .inl (hgap c hc)
    · rcases ih hc with hblank | ⟨u, hu, hc⟩
      · exact .inl hblank
      · exact .inr ⟨u, List.mem_cons_of_mem _ hu, hc⟩

theorem Separated.trimmed {words : List (List Char)} {body : List Char} (h : Separated words body)
    (hwords : ∀ w ∈ words, w ≠ [] ∧ Trimmed w) :
    Trimmed body ∧ (words ≠ [] → body ≠ []) := by
  induction h with
  | nil => exact ⟨⟨nofun, nofun⟩, fun hne => absurd rfl hne⟩
  | one w =>
    obtain ⟨hne, htrim⟩ := hwords w (List.mem_singleton_self w)
    exact ⟨htrim, fun _ => hne⟩
  | @cons w w' gap s words _ _ _ ih =>
    obtain ⟨⟨hne, htrim⟩, hrest⟩ := List.forall_mem_cons.1 hwords
    obtain ⟨htail, hs⟩ := ih hrest
    exact ⟨htrim.append htail hne (hs (by simp)) gap, fun _ => by simp [hne]⟩

theorem Separated.laidOut {words : List (List Char)} {body : List Char} (h : Separated words body) :
    LaidOut words body := ⟨[], body, [], nofun, h, nofun, by simp⟩

theorem LaidOut.blank {words : List (List Char)} {s : List Char} {c : Char} (h : LaidOut words s)
    (hc : isBlank c = true) : LaidOut words (c :: s) := by
  obtain ⟨before, body, after, hbefore, hbody, hafter, rfl⟩ := h
  exact ⟨c :: before, body, after, List.forall_mem_cons.2 ⟨hc, hbefore⟩, hbody, hafter, rfl⟩

end Text

namespace Token

open Text

theorem atBreak_of_isBlank {s : List Char} (h : ∀ c ∈ s, isBlank c = true) : atBreak s = true := by
  cases s with
  | nil => rfl
  | cons c s => exact h c List.mem_cons_self

theorem isBlank_of_atBreak {s : List Char} {c : Char} (hb : atBreak s = true) (h : s.head? = some c) :
    isBlank c = true := by
  cases s with
  | nil => cases h
  | cons d s => cases h; exact hb

theorem atBreak_append {gap : List Char} (hne : gap ≠ []) (h : ∀ c ∈ gap, isBlank c = true)
    (rest : List Char) : atBreak (gap ++ rest) = true := by
  cases gap with
  | nil => exact absurd rfl hne
  | cons c gap => exact h c List.mem_cons_self

theorem trimmed_of_spells {ts : List Token} {words : List (List Char)}
    (h : List.Forall₂ Spells ts words) : ∀ w ∈ words, w ≠ [] ∧ Trimmed w := by
  induction h with
  | nil => nofun
  | cons ht _ ih => exact List.forall_mem_cons.2 ⟨⟨ht.ne_nil, ht.trimmed⟩, ih⟩

/-- A word is laid out before others if there is a break behind it: as none of them starts with a blank,
the break is white space that belongs to neither. -/
theorem laidOut_cons {w rest : List Char} {words : List (List Char)}
    (hwords : ∀ u ∈ words, u ≠ [] ∧ Trimmed u) (hb : atBreak rest = true) (h : LaidOut words rest) :
    LaidOut (w :: words) (w ++ rest) := by
  obtain ⟨before, body, after, hbefore, hbody, hafter, rfl⟩ := h
  cases words with
  | nil =>
    cases hbody
    refine ⟨[], w, before ++ after, nofun, .one w, ?_, by simp⟩
    exact List.forall_mem_append.2 ⟨hbefore, hafter⟩
  | cons u words =>
    obtain ⟨hu, htrim⟩ := hwords u List.mem_cons_self
    have hgap : before ≠ [] := by
      rintro rfl
      have hc : u.head? = some (u.head hu) := List.head?_eq_some_head hu
      have hhead : ([] ++ body ++ after).head? = some (u.head hu) := by
        simp [List.head?_append, hbody.head? hu, hc]
      have hblank := isBlank_of_atBreak hb hhead
      rw [htrim.1 _ hc] at hblank
      cases hblank
    exact ⟨[], w ++ before ++ body, after, nofun, .cons hgap hbefore hbody, hafter, by simp⟩

/-! ## Reading what is laid out -/

theorem tokens_blanks {gap : List Char} (h : ∀ c ∈ gap, isBlank c = true) (s : List Char) :
    tokens (gap ++ s) = tokens s := by
  induction gap with
  | nil => rfl
  | cons c gap ih =>
    obtain ⟨hc, hgap⟩ := List.forall_mem_cons.1 h
    rw [List.cons_append, tokens_of_isBlank hc, ih hgap]

theorem tokens_separated {ts : List Token} {words : List (List Char)} {body after : List Char}
    (hspell : List.Forall₂ Spells ts words) (h : Separated words body)
    (hafter : ∀ c ∈ after, isBlank c = true) : tokens (body ++ after) = .ok ts := by
  have hend : tokens after = .ok [] := by
    have := tokens_blanks hafter []
    rwa [List.append_nil, tokens_nil] at this
  induction h generalizing ts with
  | nil => cases hspell; exact hend
  | one w =>
    obtain ⟨t, us, ht, hus, rfl⟩ := List.forall₂_cons_right_iff.1 hspell
    cases hus
    exact tokens_of_spells ht (atBreak_of_isBlank hafter) hend
  | @cons w w' gap s words hne hgap _ ih =>
    obtain ⟨t, us, ht, hus, rfl⟩ := List.forall₂_cons_right_iff.1 hspell
    rw [List.append_assoc, List.append_assoc]
    refine tokens_of_spells ht (atBreak_append hne hgap _) ?_
    rw [tokens_blanks hgap]
    exact ih hus

theorem tokens_of_laidOut {ts : List Token} {words : List (List Char)} {s : List Char}
    (hspell : List.Forall₂ Spells ts words) (h : LaidOut words s) : tokens s = .ok ts := by
  obtain ⟨before, body, after, hbefore, hbody, hafter, rfl⟩ := h
  rw [List.append_assoc, tokens_blanks hbefore]
  exact tokens_separated hspell hbody hafter

/-! ## Source forms -/

theorem spells_source {ts : List Token} (h : ∀ t ∈ ts, Spells t t.render.toList) :
    List.Forall₂ Spells ts (ts.map fun t => t.render.toList) :=
  List.forall₂_map_right_iff.2 (List.forall₂_same.2 h)

theorem toList_renderAll_cons (t u : Token) (ts : List Token) :
    (renderAll (t :: u :: ts)).toList = t.render.toList ++ ' ' :: (renderAll (u :: ts)).toList := by
  simp [renderAll, String.intercalate_cons_cons]

theorem separated_renderAll (ts : List Token) :
    Separated (ts.map fun t => t.render.toList) (renderAll ts).toList := by
  induction ts with
  | nil => exact .nil
  | cons t ts ih =>
    cases ts with
    | nil =>
      have hone : (renderAll [t]).toList = t.render.toList := by simp [renderAll]
      rw [hone]
      exact .one _
    | cons u ts =>
      have hspace : ∀ c ∈ [' '], isBlank c = true := List.all_eq_true.1 (by decide)
      have h := Separated.cons (w := t.render.toList) (by simp) hspace ih
      rw [toList_renderAll_cons]
      simpa using h

/-- Tokens that can be spelt are read back from their source form. -/
theorem tokens_renderAll {ts : List Token} (h : ∀ t ∈ ts, Spells t t.render.toList) :
    tokens (renderAll ts).toList = .ok ts :=
  tokens_of_laidOut (spells_source h) (separated_renderAll ts).laidOut

/-! ## Laying out what is read -/

theorem laidOut_of_tokens {s : List Char} {ts : List Token} (h : tokens s = .ok ts) :
    ∃ words, List.Forall₂ Spells ts words ∧ LaidOut words s := by
  fun_induction tokens s generalizing ts with
  | case1 => cases h; exact ⟨[], .nil, Separated.nil.laidOut⟩
  | case2 c s hc ih =>
    obtain ⟨words, hspell, hlaid⟩ := ih h
    exact ⟨words, hspell, hlaid.blank hc⟩
  | case3 => cases h
  | case4 => cases h
  | case5 c s hc t rest hr us hus ih =>
    cases h
    obtain ⟨w, hw, ht, hb⟩ := spells_of_read hr
    obtain ⟨words, hspell, hlaid⟩ := ih hus
    rw [hw]
    exact ⟨w :: words, .cons ht hspell, laidOut_cons (trimmed_of_spells hspell) hb hlaid⟩

/-! ## Refusing everything else -/

theorem finish_error {e cause : Cause} {t : Token} {rest : List Char}
    (h : finish e t rest = .error cause) : cause = e := by
  unfold finish at h
  split at h
  · cases h
  · cases h; rfl

theorem readRegister_error {kind : Kind} {strange cause : Cause} {s : List Char}
    (hs : strange.code = .tokenizer) (h : readRegister kind strange s = .error cause) :
    cause.code = .tokenizer := by
  unfold readRegister at h
  split at h
  · cases h
    split
    · rfl
    · exact hs
  · rw [finish_error h, hs]

theorem readSigil_error {s : List Char} {cause : Cause} (h : readSigil s = .error cause) :
    cause.code = .tokenizer := by
  unfold readSigil at h
  split at h
  · exact readRegister_error rfl h
  · exact readRegister_error rfl h
  · cases h
    split <;> rfl

theorem readText_error {s : List Char} {cause : Cause} (h : readText s = .error cause) :
    cause.code = .tokenizer := by
  unfold readText at h
  split at h
  · cases h; rfl
  · rw [finish_error h]; rfl

theorem readNumber_error {first : Char} {s : List Char} {cause : Cause}
    (h : readNumber first s = .error cause) : cause.code = .tokenizer := by
  unfold readNumber at h
  split at h
  · rw [finish_error h]; rfl
  · rw [finish_error h]; rfl

theorem readName_error {first : Char} {s : List Char} {cause : Cause}
    (h : readName first s = .error cause) : cause.code = .tokenizer := by
  unfold readName at h
  split at h
  · rw [finish_error h]; rfl
  · rw [finish_error h]; rfl

theorem read_error {c : Char} {s : List Char} {cause : Cause} (h : read c s = .error cause) :
    cause.code = .tokenizer := by
  unfold read at h
  split at h
  · exact readSigil_error h
  split at h
  · exact readText_error h
  split at h
  · exact readNumber_error h
  split at h
  · exact readName_error h
  · cases h; rfl

/-- A line that is not made up of tokens is refused as such. -/
theorem tokens_error {s : List Char} {cause : Cause} (h : tokens s = .error cause) :
    cause.code = .tokenizer := by
  fun_induction tokens s with
  | case1 => cases h
  | case2 c s hc ih => exact ih h
  | case3 c s hc e hr => cases h; exact read_error hr
  | case4 c s hc t rest hr e he ih => cases h; exact ih he
  | case5 => cases h

/-- A line gives tokens exactly if written forms of these tokens are laid out in it, with white space between
them. A line of any other form gives a fault of the lexer's family, which is in no numbered line yet. -/
theorem lex_grammar (s : String) :
    (∀ c, isBlank c = true ↔ c.toNat ∈ blankPoints) ∧
    (∀ ts, lex s = .ok ts ↔
      ∃ words, List.Forall₂ Spells ts words ∧ LaidOut words s.toList) ∧
    ((¬ ∃ ts words, List.Forall₂ Spells ts words ∧ LaidOut words s.toList) →
      ∃ cause, lex s = .error cause ∧
        ({ cause } : Fault).report = ⟨.tokenizer, none, cause.text⟩) := by
  have grammar : ∀ ts, lex s = .ok ts ↔
      ∃ words, List.Forall₂ Spells ts words ∧ LaidOut words s.toList := by
    intro ts
    constructor
    · exact laidOut_of_tokens
    · rintro ⟨words, hspell, hlaid⟩
      exact tokens_of_laidOut hspell hlaid
  refine ⟨fun _ => isBlank_iff, grammar, ?_⟩
  intro hnone
  cases h : lex s with
  | ok ts => exact absurd ⟨ts, (grammar ts).1 h⟩ hnone
  | error cause =>
    refine ⟨cause, rfl, ?_⟩
    rw [Fault.report, Fault.code, tokens_error h]
    rfl

end Token
end Quadcopter
