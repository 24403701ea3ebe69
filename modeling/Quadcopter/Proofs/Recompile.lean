import Mathlib.Tactic.TFAE
import Quadcopter.Proofs.Assembly
import Quadcopter.Proofs.Lines

/-!
# Quadcopter.Proofs.Recompile

The source form of a compiled program, compiled again.

* `Entry.Readable`: what every line of a compiled program is, because its source line parses
  (`readable_of_parse`).
* `parse_render`: the source form of a readable line parses to the label and the tokens of the line.
* `ofLines_source`: lines with different labels make up the same program again.
* `recompile_tfae`: compiling the source form of a program gives the program back exactly if no text in
  it holds a newline.
-/

namespace Quadcopter

open Text

theorem check_of_unlabelled {a b : List Token} (h : unlabelled a = unlabelled b) : check a = check b := by
  unfold check
  rw [h]

/-! ## Tokens that can be read back -/

namespace Token

/-- A token whose source form is read back as it stands. -/
structure Readable (t : Token) : Prop where
  spelt : Spells t t.render.toList
  plain : ∀ c ∈ t.render.toList, Line.Plain c

theorem mem_renderAll {ts : List Token} {c : Char} (h : c ∈ (renderAll ts).toList) :
    c = ' ' ∨ ∃ t ∈ ts, c ∈ t.render.toList := by
  induction ts with
  | nil => simp [renderAll] at h
  | cons t ts ih =>
    cases ts with
    | nil => exact .inr ⟨t, List.mem_cons_self, by simpa [renderAll] using h⟩
    | cons u ts =>
      rw [toList_renderAll_cons] at h
      rcases List.mem_append.1 h with h | h
      · exact .inr ⟨t, List.mem_cons_self, h⟩
      rcases List.mem_cons.1 h with rfl | h
      · exact .inl rfl
      rcases ih h with h | ⟨w, hw, h⟩
      · exact .inl h
      · exact .inr ⟨w, List.mem_cons_of_mem t hw, h⟩

theorem mem_renderAll_of_mem {ts : List Token} {t : Token} {c : Char} (ht : t ∈ ts)
    (hc : c ∈ t.render.toList) : c ∈ (renderAll ts).toList := by
  induction ts with
  | nil => cases ht
  | cons u ts ih =>
    cases ts with
    | nil =>
      obtain rfl := List.mem_singleton.1 ht
      simpa [renderAll] using hc
    | cons w ts =>
      rw [toList_renderAll_cons]
      rcases List.mem_cons.1 ht with rfl | ht
      · exact List.mem_append_left _ hc
      · exact List.mem_append_right _ (List.mem_cons_of_mem _ (ih ht))

theorem renderAll_trimmed {ts : List Token} (h : ∀ t ∈ ts, t.Readable) :
    Trimmed (renderAll ts).toList := by
  have hspell := spells_source fun t ht => (h t ht).spelt
  exact ((separated_renderAll ts).trimmed (trimmed_of_spells hspell)).1

theorem normalize_renderAll {ts : List Token} (h : ∀ t ∈ ts, t.Readable) :
    Line.normalize (renderAll ts).toList = (renderAll ts).toList := by
  refine Line.normalize_of_plain ?_ (renderAll_trimmed h)
  intro c hc
  rcases mem_renderAll hc with rfl | ⟨t, ht, hc⟩
  · exact ⟨upperChar_of_mark (by decide), by decide⟩
  · exact (h t ht).plain c hc

/-- A newline in the source form of a token is one in its text. -/
theorem Readable.newline_mem_iff {t : Token} (h : t.Readable) :
    '\n' ∈ t.render.toList ↔ t.kind = .text ∧ '\n' ∈ t.text.toList := by
  constructor
  · intro hm
    rcases h.spelt.visible with hk | hv
    · exact ⟨hk, by simpa [render, hk] using hm⟩
    · exact absurd (hv _ hm).1 (by decide)
  · rintro ⟨hk, hm⟩
    simp [render, hk, hm]

end Token

theorem tokens_of_parse {s : String} {ts : List Token} (h : Line.parse s = .ok ts) :
    Token.tokens (Line.normalize s.toList) = .ok ts := by
  unfold Line.parse at h
  split at h
  · cases h
  · next hts =>
    split at h
    · cases h
    · cases h; exact hts

theorem readable_of_parse {s : String} {ts : List Token} (h : Line.parse s = .ok ts) :
    ∀ t ∈ ts, t.Readable := by
  intro t ht
  obtain ⟨w, hw, hsub⟩ := Token.spells_of_tokens (tokens_of_parse h) t ht
  have hr := hw.eq_render
  subst hr
  exact ⟨hw, fun c hc => Line.plain_of_mem_normalize (hsub c hc)⟩

theorem readable_nop : (Token.ofMnemonic .nop).Readable := by
  have hspelt : Token.Spells ⟨.command, String.ofList ['N', 'O', 'P']⟩ ['N', 'O', 'P'] :=
    @Token.Spells.command .nop 'N' ['O', 'P'] (by decide) (by simp) rfl
  have hplain : (Token.ofMnemonic .nop).render.toList.all (fun c => decide (Line.Plain c)) = true := by
    decide
  exact ⟨hspelt, fun c hc => of_decide_eq_true (List.all_eq_true.1 hplain c hc)⟩

/-! ## Lines of a program -/

namespace Entry

/-- The tokens of the line's source form: the label, if there is one, and the instruction. -/
def source (e : Entry) : List Token := (e.label.map (Token.mk .label)).toList ++ e.tokens

/-- A line whose source form is read back as it stands. -/
structure Readable (e : Entry) : Prop where
  tokens : ∀ t ∈ e.source, t.Readable
  checked : check e.tokens = .ok ()
  bare : unlabelled e.tokens = e.tokens
  nonempty : e.tokens ≠ []

variable {e : Entry}

theorem render_eq (h : e.tokens ≠ []) : e.render = Token.renderAll e.source := by
  obtain ⟨label, tokens⟩ := e
  cases label with
  | none => simp [render, source]
  | some name =>
    cases tokens with
    | nil => exact absurd rfl h
    | cons t ts =>
      simp [render, source, Token.renderAll, Token.render, String.intercalate_cons_cons,
        String.append_assoc]

theorem unlabelled_source (h : unlabelled e.tokens = e.tokens) : unlabelled e.source = e.tokens := by
  obtain ⟨label, tokens⟩ := e
  cases label with
  | none => simpa [source] using h
  | some name => simp [source, unlabelled, Token.isLabel]

theorem labelOf_source (h : unlabelled e.tokens = e.tokens) : Program.labelOf e.source = e.label := by
  obtain ⟨label, tokens⟩ := e
  cases label with
  | some name => simp [source, Program.labelOf, Token.isLabel]
  | none =>
    cases tokens with
    | nil => rfl
    | cons t ts =>
      cases ht : t.isLabel with
      | false => simp [source, Program.labelOf, ht]
      | true =>
        simp only [unlabelled, ht, if_true] at h
        have := congrArg List.length h
        simp at this

theorem Readable.forget (h : e.Readable) (name : String) : (e.forget name).Readable := by
  unfold Entry.forget
  split
  · refine ⟨?_, h.checked, h.bare, h.nonempty⟩
    intro t ht
    exact h.tokens t (List.mem_append_right _ (by simpa [source] using ht))
  · exact h

/-- The source form of a readable line parses to its label and its tokens. -/
theorem parse_render (h : e.Readable) : Line.parse e.render = .ok e.source := by
  have hnormal := Token.normalize_renderAll h.tokens
  have htokens := Token.tokens_renderAll fun t ht => (h.tokens t ht).spelt
  have hcheck : check e.source = .ok () := by
    rw [← h.checked]
    exact check_of_unlabelled ((unlabelled_source h.bare).trans h.bare.symm)
  rw [Line.parse, render_eq h.nonempty, hnormal, htokens]
  dsimp only
  rw [hcheck]

theorem newline_mem_render_iff (h : e.Readable) :
    '\n' ∈ e.render.toList ↔ ∃ t ∈ e.tokens, t.kind = .text ∧ '\n' ∈ t.text.toList := by
  rw [render_eq h.nonempty]
  constructor
  · intro hm
    rcases Token.mem_renderAll hm with hs | ⟨t, ht, hm⟩
    · cases hs
    have hk := (h.tokens t ht).newline_mem_iff.1 hm
    refine ⟨t, ?_, hk⟩
    rcases List.mem_append.1 ht with hl | ht
    · obtain ⟨name, -, rfl⟩ := Option.map_eq_some_iff.1 (Option.mem_toList.1 hl)
      cases hk.1
    · exact ht
  · rintro ⟨t, ht, hk⟩
    have hs : t ∈ e.source := List.mem_append_right _ ht
    exact Token.mem_renderAll_of_mem hs ((h.tokens t hs).newline_mem_iff.2 hk)

end Entry

theorem label_mem_of_labelOf {ts : List Token} {name : String} (h : Program.labelOf ts = some name) :
    Token.mk .label name ∈ ts := by
  obtain ⟨us, rfl⟩ := labelOf_eq_some_iff.1 h
  exact List.mem_cons_self

theorem mem_of_mem_unlabelled {ts : List Token} {t : Token} (h : t ∈ unlabelled ts) : t ∈ ts := by
  unfold unlabelled at h
  split at h
  · split at h
    · exact List.mem_cons_of_mem _ h
    · exact h
  · exact h

/-- The instruction of a checked line is a line of its own that has no label and passes the check. -/
theorem instruction_checked {ts : List Token} (h : check ts = .ok ()) :
    let line := Program.instructionOf (unlabelled ts)
    check line = .ok () ∧ unlabelled line = line ∧ line ≠ [] := by
  intro line
  rcases check_eq_ok_iff.1 h with h0 | ⟨command, operands, w, hu, hw, hf⟩
  · have hl : line = [Token.ofMnemonic .nop] := by simp only [line, h0]; rfl
    rw [hl]
    exact ⟨rfl, rfl, by simp⟩
  · have hl : line = command :: operands := by simp only [line, hu]; rfl
    have hbare : unlabelled (command :: operands) = command :: operands := by
      simp [unlabelled, isLabel_of_mnemonic hw]
    rw [hl]
    exact ⟨check_eq_ok_iff.2 (.inr ⟨command, operands, w, hbare, hw, hf⟩), hbare, by simp⟩

/-- A source line that parses gives a readable line. -/
theorem readable_entry {s : String} {ts : List Token} (h : Line.parse s = .ok ts) :
    (Entry.mk (Program.labelOf ts) (Program.instructionOf (unlabelled ts))).Readable := by
  obtain ⟨hcheck, hbare, hne⟩ := instruction_checked (check_of_parse h)
  refine ⟨?_, hcheck, hbare, hne⟩
  intro t ht
  rcases List.mem_append.1 ht with hl | ht
  · obtain ⟨name, hname, rfl⟩ := Option.map_eq_some_iff.1 (Option.mem_toList.1 hl)
    exact readable_of_parse h _ (label_mem_of_labelOf hname)
  · cases hu : unlabelled ts with
    | nil =>
      simp only [hu, Program.instructionOf, List.mem_singleton] at ht
      subst ht
      exact readable_nop
    | cons u us =>
      simp only [hu, Program.instructionOf] at ht
      exact readable_of_parse h t (mem_of_mem_unlabelled (hu ▸ ht))

/-! ## Programs -/

/-- Two lines without a label in common. -/
def Entry.Apart (a b : Entry) : Prop := ∀ name, a.label = some name → b.label ≠ some name

theorem Entry.label_forget {name : String} {e : Entry} {other : String}
    (h : (e.forget name).label = some other) : e.label = some other ∧ other ≠ name := by
  unfold Entry.forget at h
  split at h
  · cases h
  · next hn => exact ⟨h, fun he => hn (he ▸ h)⟩

namespace Program

/-- The lines of a program without the label that is to be defined. -/
def freed (p : Program) : Option String → List Entry
  | some name => p.entries.toList.map (Entry.forget name)
  | none => p.entries.toList

theorem toList_append (p : Program) (label : Option String) (ts : List Token) :
    (p.append label ts).entries.toList = p.freed label ++ [⟨label, instructionOf ts⟩] := by
  cases label <;> simp [append, freed]

/-- All lines can be read back, and no two have the same label. -/
structure Sound (p : Program) : Prop where
  readable : ∀ e ∈ p.entries.toList, e.Readable
  apart : p.entries.toList.Pairwise Entry.Apart

theorem Sound.append {p : Program} (h : p.Sound) {label : Option String} {ts : List Token}
    (he : (Entry.mk label (instructionOf ts)).Readable) : (p.append label ts).Sound := by
  have hreadable : ∀ e ∈ p.freed label, e.Readable := by
    cases label with
    | none => exact h.readable
    | some name =>
      intro e hm
      obtain ⟨d, hd, rfl⟩ := List.mem_map.1 hm
      exact (h.readable d hd).forget name
  have hpairwise : (p.freed label).Pairwise Entry.Apart := by
    cases label with
    | none => exact h.apart
    | some name =>
      refine List.pairwise_map.2 (h.apart.imp ?_)
      intro a b hab other ha hb
      exact hab other (Entry.label_forget ha).1 (Entry.label_forget hb).1
  have hnew : ∀ e ∈ p.freed label, e.Apart ⟨label, instructionOf ts⟩ := by
    intro e hm other ho hl
    obtain rfl : label = some other := hl
    obtain ⟨d, hd, rfl⟩ := List.mem_map.1 hm
    exact (Entry.label_forget ho).2 rfl
  constructor
  · intro e hm
    rw [toList_append] at hm
    rcases List.mem_append.1 hm with hm | hm
    · exact hreadable e hm
    · obtain rfl := List.mem_singleton.1 hm
      exact he
  · rw [toList_append, List.pairwise_append]
    refine ⟨hpairwise, List.pairwise_singleton _ _, ?_⟩
    intro a ha b hb
    obtain rfl := List.mem_singleton.1 hb
    exact hnew a ha

theorem sound_ofLines {lines : List String} {tss : List (List Token)}
    (h : List.Forall₂ (fun s ts => Line.parse s = .ok ts) lines tss) : (ofLines tss).Sound := by
  have keep : ∀ p : Program, p.Sound → (tss.foldl add p).Sound := by
    induction h with
    | nil => exact fun p hp => hp
    | @cons s ts lines tss hs _ ih =>
      intro p hp
      refine ih (p.add ts) ?_
      rw [add_eq]
      exact hp.append (readable_entry hs)
  exact keep empty ⟨nofun, .nil⟩

theorem eq_of_toList {p q : Program} (h : p.entries.toList = q.entries.toList) : p = q := by
  cases p; cases q
  exact congrArg Program.mk (Array.toList_inj.1 h)

/-- Adding the source of a line whose label no line has yet adds the line. -/
theorem add_source {p : Program} {e : Entry} (he : e.Readable)
    (ha : ∀ d ∈ p.entries.toList, d.Apart e) : p.add e.source = ⟨p.entries.push e⟩ := by
  have hfreed : p.freed e.label = p.entries.toList := by
    cases hl : e.label with
    | none => rfl
    | some name =>
      have hkeep : ∀ d ∈ p.entries.toList, d.forget name = d := by
        intro d hd
        exact if_neg fun hn => ha d hd name hn hl
      exact (List.map_congr_left hkeep).trans (List.map_id _)
  apply eq_of_toList
  rw [add_eq, Entry.labelOf_source he.bare, Entry.unlabelled_source he.bare, toList_append, hfreed]
  obtain ⟨label, tokens⟩ := e
  cases tokens with
  | nil => exact absurd rfl he.nonempty
  | cons t ts => simp [instructionOf]

/-- Lines with different labels, added one by one, are the lines of the program. -/
theorem ofLines_source {p : Program} (h : p.Sound) :
    ofLines (p.entries.toList.map Entry.source) = p := by
  have rebuild : ∀ (es : List Entry) (q : Program), (∀ e ∈ es, e.Readable) →
      (q.entries.toList ++ es).Pairwise Entry.Apart →
      ((es.map Entry.source).foldl add q).entries.toList = q.entries.toList ++ es := by
    intro es
    induction es with
    | nil => intro q _ _; simp
    | cons e es ih =>
      intro q hr ha
      have he := hr e List.mem_cons_self
      have hnew : ∀ d ∈ q.entries.toList, d.Apart e := by
        intro d hd
        exact (List.pairwise_append.1 ha).2.2 d hd e List.mem_cons_self
      rw [List.map_cons, List.foldl_cons, add_source he hnew, ih]
      · simp
      · exact fun d hd => hr d (List.mem_cons_of_mem e hd)
      · simpa using ha
  apply eq_of_toList
  have := rebuild p.entries.toList empty h.readable (by simpa [empty] using h.apart)
  simpa [ofLines, empty] using this

theorem toList_render (p : Program) :
    p.render.toList = ended '\n' (p.entries.toList.map fun e => e.render.toList) := by
  have fold : ∀ (es : List Entry) (acc : String),
      (es.foldl (fun s e => s ++ e.render ++ "\n") acc).toList =
        acc.toList ++ ended '\n' (es.map fun e => e.render.toList) := by
    intro es
    induction es with
    | nil => simp [ended]
    | cons e es ih => intro acc; simp [ih, ended]
  rw [render, ← Array.foldl_toList, fold]
  simp

/-- Without newlines in its texts a program has one line of text for each line. -/
theorem lines_render {p : Program} (h : p.Sound) (hn : ∀ e ∈ p.entries.toList, '\n' ∉ e.render.toList) :
    Text.lines p.render = p.entries.toList.map Entry.render := by
  have hret : ∀ l ∈ p.entries.toList.map (fun e => e.render.toList), l.getLast? ≠ some '\r' := by
    intro l hl hlast
    obtain ⟨e, he, rfl⟩ := List.mem_map.1 hl
    have hr := h.readable e he
    rw [Entry.render_eq hr.nonempty] at hlast
    have := (Token.renderAll_trimmed hr.tokens).2 _ hlast
    exact absurd this (by decide)
  have hnewline : ∀ l ∈ p.entries.toList.map (fun e => e.render.toList), '\n' ∉ l := by
    intro l hl
    obtain ⟨e, he, rfl⟩ := List.mem_map.1 hl
    exact hn e he
  rw [Text.lines, toList_render, linesOf_ended_eq hnewline hret]
  simp

theorem length_lines_render {p : Program} (h : (Text.lines p.render).length = p.size) :
    ∀ e ∈ p.entries.toList, '\n' ∉ e.render.toList := by
  rw [Text.lines, toList_render, List.length_map] at h
  have hn := notMem_of_length_linesOf (h.trans (by simp [size]))
  exact fun e he => hn _ (List.mem_map.2 ⟨e, he, rfl⟩)

theorem line?_eq_some_iff {p : Program} {i : Nat} {ts : List Token} :
    p.line? i = some ts ↔ ∃ e, p.entries.toList[i]? = some e ∧ e.tokens = ts := by
  simp [line?]

theorem size_eq_of_line? {p q : Program} (h : ∀ i, q.line? i = p.line? i) : q.size = p.size := by
  have hle : p.size ≤ q.size := by rw [size_le_iff_line?, ← h, ← size_le_iff_line?]
  have hge : q.size ≤ p.size := by rw [size_le_iff_line?, h, ← size_le_iff_line?]
  omega

end Program

/-- For a compiled program it is the same that its source form compiles to it, that its source form
compiles to a program with the same instructions and the same labels, and that no text in it holds a
newline. -/
theorem recompile_tfae {lines : List String} {p : Program} (h : compile lines = .ok p) :
    [compile (Text.lines p.render) = .ok p,
      ∃ q, compile (Text.lines p.render) = .ok q ∧ (∀ i, q.line? i = p.line? i) ∧
        ∀ name, q.find? name = p.find? name,
      ∀ i ts, p.line? i = some ts → ∀ t ∈ ts, t.kind = .text → '\n' ∉ t.text.toList].TFAE := by
  obtain ⟨tss, hparse, rfl⟩ := compile_eq_ok_iff.1 h
  have hsound := Program.sound_ofLines hparse
  generalize Program.ofLines tss = p at h hsound
  tfae_have 1 → 2 := fun hp => ⟨p, hp, fun _ => rfl, fun _ => rfl⟩
  tfae_have 2 → 3 := by
    rintro ⟨q, hq, hlines, -⟩ i ts hi t ht hk hm
    have hsize : q.size = p.size := Program.size_eq_of_line? hlines
    have hlength := (size_compile hq).symm.trans hsize
    obtain ⟨e, he, rfl⟩ := Program.line?_eq_some_iff.1 hi
    have hmem := List.mem_of_getElem? he
    refine Program.length_lines_render hlength e hmem ?_
    exact (Entry.newline_mem_render_iff (hsound.readable e hmem)).2 ⟨t, ht, hk, hm⟩
  tfae_have 3 → 1 := by
    intro hn
    have hrender : ∀ e ∈ p.entries.toList, '\n' ∉ e.render.toList := by
      intro e he hm
      obtain ⟨t, ht, hk, hm⟩ := (Entry.newline_mem_render_iff (hsound.readable e he)).1 hm
      obtain ⟨i, hi⟩ := List.getElem?_of_mem he
      exact hn i e.tokens (Program.line?_eq_some_iff.2 ⟨e, hi, rfl⟩) t ht hk hm
    rw [Program.lines_render hsound hrender, compile_eq_ok_iff]
    refine ⟨p.entries.toList.map Entry.source, ?_, (Program.ofLines_source hsound).symm⟩
    rw [List.forall₂_map_left_iff, List.forall₂_map_right_iff, List.forall₂_same]
    exact fun e he => Entry.parse_render (hsound.readable e he)
  tfae_finish

/-- A label that moves to a bare line, and a text with a newline, which is therefore not read back. -/
theorem recompile_newline :
    let lines := ["a: nop", "A: # again", "display \"x\ny\"", "jump a"]
    let p : Program :=
      ⟨#[⟨none, [.ofMnemonic .nop]⟩, ⟨some "A", [.ofMnemonic .nop]⟩,
        ⟨none, [.ofMnemonic .display, ⟨.text, "X\nY"⟩]⟩,
        ⟨none, [.ofMnemonic .jump, ⟨.identifier, "A"⟩]⟩]⟩
    compile lines = .ok p ∧
      [compile (Text.lines p.render) = .ok p,
        ∃ q, compile (Text.lines p.render) = .ok q ∧ (∀ i, q.line? i = p.line? i) ∧
          ∀ name, q.find? name = p.find? name,
        ∀ i ts, p.line? i = some ts → ∀ t ∈ ts, t.kind = .text → '\n' ∉ t.text.toList].TFAE := by
  intro lines p
  have h : compile lines = .ok p := eq_ok_of_toOption (by decide +kernel)
  exact ⟨h, recompile_tfae h⟩

end Quadcopter
