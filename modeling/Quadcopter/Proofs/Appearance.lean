import Quadcopter.Proofs.Recompile

/-!
# Quadcopter.Proofs.Appearance

Lines that look different and say the same. White space, the case of letters and comments are what a
reader sees of a line besides its tokens, and none of them changes the tokens.

* `SameButCase`: the same text but for the case of letters of ASCII.
* `normalize_written`: making a line ready undoes all of this: what is left are the words and the white
  space between them.
* `read_written`: a line written from the tokens of another one has the same tokens.
-/

namespace Quadcopter

open Text

namespace Text

/-- The same text but for the case of letters of ASCII, the only characters that `Char.toUpper` changes. -/
def SameButCase (s s' : List Char) : Prop := List.Forall₂ (fun c d => c.toUpper = d.toUpper) s s'

theorem SameButCase.upper {s s' : List Char} (h : SameButCase s s') (hs : ∀ c ∈ s, upperChar c = [c]) :
    upper s' = s := by
  induction h with
  | nil => rfl
  | cons hcd _ ih =>
    obtain ⟨hc, hrest⟩ := List.forall_mem_cons.1 hs
    rw [Text.upper, List.flatMap_cons, upperChar_of_toUpper_eq hc hcd]
    exact congrArg (_ :: ·) (ih hrest)

end Text

namespace Line

theorem plain_of_isBlank {c : Char} (h : isBlank c = true) : Plain c := by
  refine ⟨upperChar_of_mark (mem_markPoints_of_isBlank h), ?_⟩
  rintro rfl
  cases h

/-- What is left of words that are laid out in any way, in any case and with any comment behind them. -/
theorem normalize_written {words : List (List Char)} {before body after written comment : List Char}
    (hplain : ∀ w ∈ words, ∀ c ∈ w, Plain c) (hwords : ∀ w ∈ words, w ≠ [] ∧ Trimmed w)
    (hbefore : ∀ c ∈ before, isBlank c = true) (hbody : Separated words body)
    (hafter : ∀ c ∈ after, isBlank c = true) (hcase : SameButCase (before ++ body ++ after) written)
    (hcomment : comment = [] ∨ ∃ text, comment = '#' :: text) :
    normalize (written ++ comment) = body := by
  have hall : ∀ c ∈ before ++ body ++ after, Plain c := by
    intro c hc
    rcases List.mem_append.1 hc with hc | hc
    · rcases List.mem_append.1 hc with hc | hc
      · exact plain_of_isBlank (hbefore c hc)
      · rcases hbody.mem hc with hblank | ⟨w, hw, hc⟩
        · exact plain_of_isBlank hblank
        · exact hplain w hw c hc
    · exact plain_of_isBlank (hafter c hc)
  have hupper : upper written = before ++ body ++ after := hcase.upper fun c hc => (hall c hc).1
  -- a `#` in the written line would be one in the words, as no letter becomes one
  have hmark : '#' ∉ written := by
    intro hm
    have hm' : '#' ∈ upper written :=
      List.mem_flatMap.2 ⟨'#', hm, by rw [upperChar_of_mark (by decide)]; exact List.mem_singleton_self _⟩
    rw [hupper] at hm'
    exact (hall _ hm').2 rfl
  rw [normalize, uncommented_append hmark hcomment, hupper]
  exact trim_between hbefore (hbody.trimmed hwords).1 hafter

end Line

/-- A line that is written from the tokens of a line that can be read: their source forms in order, with any
white space between and around them, with any letters of ASCII in the other case, and perhaps with a comment.
It can be read under any number and has the same tokens. -/
theorem read_written {number : Nat} {s : String} {ts : List Token} (h : Line.read number s = .ok ts)
    {laid written comment : List Char} (hlaid : LaidOut (ts.map fun t => t.render.toList) laid)
    (hcase : SameButCase laid written) (hcomment : comment = [] ∨ ∃ text, comment = '#' :: text)
    (m : Nat) : Line.read m (String.ofList (written ++ comment)) = .ok ts := by
  have hparse := parse_of_read h
  have readable := readable_of_parse hparse
  have hspell := Token.spells_source fun t ht => (readable t ht).spelt
  have hplain : ∀ w ∈ ts.map (fun t => t.render.toList), ∀ c ∈ w, Line.Plain c := by
    intro w hw
    obtain ⟨t, ht, rfl⟩ := List.mem_map.1 hw
    exact (readable t ht).plain
  obtain ⟨before, body, after, hbefore, hbody, hafter, rfl⟩ := hlaid
  have hnormal := Line.normalize_written hplain (Token.trimmed_of_spells hspell) hbefore hbody hafter
    hcase hcomment
  have htokens : Token.tokens body = .ok ts := Token.tokens_of_laidOut hspell hbody.laidOut
  refine read_of_parse m ?_
  rw [Line.parse, String.toList_ofList, hnormal, htokens]
  dsimp only
  rw [check_of_parse hparse]

/-- A label and a text that are written in another way: with a tab, more blanks, other letters in lower case and
a comment. -/
theorem read_written_label :
    let s := "top: display \"ab c\""
    let ts : List Token := [⟨.label, "TOP"⟩, ⟨.command, "DISPLAY"⟩, ⟨.text, "AB C"⟩]
    let laid := "\tTOP:  DISPLAY \"AB C\" ".toList
    let written := "\ttOP:  Display \"aB C\" ".toList
    let comment := "# \"D\"".toList
    Line.read 3 s = .ok ts ∧ LaidOut (ts.map fun t => t.render.toList) laid ∧
      SameButCase laid written ∧ Line.read 8 (String.ofList (written ++ comment)) = .ok ts := by
  intro s ts laid written comment
  have hread : Line.read 3 s = .ok ts := eq_ok_of_toOption (by decide +kernel)
  have hlaid : LaidOut (ts.map fun t => t.render.toList) laid := by
    have htab : ∀ c ∈ ['\t'], isBlank c = true := List.all_eq_true.1 (by decide)
    have hspace : ∀ c ∈ [' '], isBlank c = true := List.all_eq_true.1 (by decide)
    have hwide : ∀ c ∈ [' ', ' '], isBlank c = true := List.all_eq_true.1 (by decide)
    have hbody := Separated.cons (w := "TOP:".toList) (by simp) hwide
      (.cons (w := "DISPLAY".toList) (by simp) hspace (.one "\"AB C\"".toList))
    exact ⟨['\t'], _, [' '], htab, hbody, hspace, by decide⟩
  have hcase : SameButCase laid written := by
    unfold SameButCase
    decide
  exact ⟨hread, hlaid, hcase, read_written hread hlaid hcase (.inr ⟨" \"D\"".toList, rfl⟩) 8⟩

end Quadcopter
