import Mathlib.Data.List.Forall2
import Mathlib.Data.List.Induction
import Mathlib.Order.Bounds.Basic
import Quadcopter.Proofs.Compilation
import Quadcopter.Proofs.Layout

/-!
# Quadcopter.Proofs.Assembly

How source lines make up a program.

* `find?_add`: a line that starts with a label moves the label to itself and leaves all others where
  they were.
* `compile_eq_ok_iff`: compiling succeeds exactly if every line can be parsed, and gives the program of
  the parsed lines (`Program.ofLines`).
* `find?_ofLines`: a label stands at the last source line that starts with it.
* `Leaves`: what a program has for a line, with a label or without one, blank or not.
* `compile_cases`: what compiling gives, said about the source lines alone (`Assembled`, `FirstFault`).
-/

namespace Quadcopter
namespace Program

/-- The label at the start of a source line. -/
def labelOf : List Token → Option String
  | t :: _ => if t.isLabel then some t.text else none
  | [] => none

theorem add_eq (p : Program) (ts : List Token) : p.add ts = p.append (labelOf ts) (unlabelled ts) := by
  cases ts with
  | nil => rfl
  | cons t ts =>
    cases h : t.isLabel with
    | true => simp [add, labelOf, unlabelled, h]
    | false => simp [add, labelOf, unlabelled, h]

theorem label_forget_beq (forgotten name : String) (e : Entry) :
    ((e.forget forgotten).label == some name) = (e.label == some name && forgotten != name) := by
  unfold Entry.forget
  split
  · next h => by_cases hn : forgotten = name <;> simp [h, hn]
  · next h =>
    by_cases hn : forgotten = name
    · subst hn; simp [h]
    · simp [hn]

theorem find?_append (p : Program) (label : Option String) (ts : List Token) (name : String) :
    (p.append label ts).find? name = if label = some name then some p.size else p.find? name := by
  unfold append find?
  cases label with
  | none => simp [Array.findIdx?_push]
  | some l =>
    rw [Array.findIdx?_push, Array.findIdx?_map]
    by_cases h : l = name
    · have hnone : p.entries.findIdx? ((fun e => e.label == some name) ∘ Entry.forget l) = none := by
        rw [Array.findIdx?_eq_none_iff]
        intro e _
        simp [label_forget_beq, h]
      rw [hnone]
      simp [h, size]
    · have hsame : (fun e : Entry => e.label == some name) ∘ Entry.forget l =
          fun e => e.label == some name := by
        funext e
        simp [label_forget_beq, h]
      rw [hsame]
      simp [h]

theorem find?_add (p : Program) (ts : List Token) (name : String) :
    (p.add ts).find? name = if labelOf ts = some name then some p.size else p.find? name := by
  rw [add_eq, find?_append]

/-- The program of a list of source lines. -/
def ofLines (lines : List (List Token)) : Program := lines.foldl add empty

theorem size_ofLines (tss : List (List Token)) : (ofLines tss).size = tss.length := by
  have h : ∀ p : Program, (tss.foldl add p).size = p.size + tss.length := by
    induction tss with
    | nil => exact fun p => rfl
    | cons ts tss ih =>
      intro p
      rw [List.foldl_cons, ih, size_add, List.length_cons]
      omega
  rw [ofLines, h]
  exact Nat.zero_add _

theorem ofLines_concat (tss : List (List Token)) (ts : List Token) :
    ofLines (tss ++ [ts]) = (ofLines tss).add ts := by
  rw [ofLines, List.foldl_append]
  rfl

/-- The places of the source lines that start with a label. -/
def places (tss : List (List Token)) (name : String) : Set Nat :=
  {i | ∃ ts, tss[i]? = some ts ∧ labelOf ts = some name}

theorem lt_of_mem_places {tss : List (List Token)} {name : String} {i : Nat}
    (h : i ∈ places tss name) : i < tss.length := by
  obtain ⟨ts, hts, -⟩ := h
  exact (List.getElem?_eq_some_iff.1 hts).1

theorem mem_places_concat {tss : List (List Token)} {ts : List Token} {name : String} {i : Nat} :
    i ∈ places (tss ++ [ts]) name ↔
      i ∈ places tss name ∨ i = tss.length ∧ labelOf ts = some name := by
  constructor
  · rintro ⟨us, hus, hlabel⟩
    rcases Nat.lt_or_ge i tss.length with hi | hi
    · rw [List.getElem?_append_left hi] at hus
      exact .inl ⟨us, hus, hlabel⟩
    · have hlt : i < (tss ++ [ts]).length := (List.getElem?_eq_some_iff.1 hus).1
      have hlast : i = tss.length := by simp at hlt; omega
      subst hlast
      rw [List.getElem?_concat_length] at hus
      cases hus
      exact .inr ⟨rfl, hlabel⟩
  · rintro (h | ⟨rfl, hlabel⟩)
    · obtain ⟨us, hus, hlabel⟩ := h
      have hi := (List.getElem?_eq_some_iff.1 hus).1
      exact ⟨us, by rw [List.getElem?_append_left hi, hus], hlabel⟩
    · exact ⟨ts, List.getElem?_concat_length, hlabel⟩

/-- A label stands at the last source line that starts with it, and nowhere if none does. -/
theorem find?_ofLines (tss : List (List Token)) (name : String) :
    (∃ i, (ofLines tss).find? name = some i ∧ IsGreatest (places tss name) i) ∨
      (ofLines tss).find? name = none ∧ ∀ i, i ∉ places tss name := by
  -- the last line decides, so the induction takes lines off the end
  induction tss using List.reverseRecOn with
  | nil =>
    refine .inr ⟨by simp [ofLines, empty, find?], ?_⟩
    intro i hi
    exact Nat.not_lt_zero i (lt_of_mem_places hi)
  | append_singleton tss ts ih =>
    rw [ofLines_concat, find?_add, size_ofLines]
    by_cases hlabel : labelOf ts = some name
    · rw [if_pos hlabel]
      refine .inl ⟨_, rfl, mem_places_concat.2 (.inr ⟨rfl, hlabel⟩), ?_⟩
      intro j hj
      have := lt_of_mem_places hj
      simp at this
      omega
    · have hsame : places (tss ++ [ts]) name = places tss name := by
        ext i
        rw [mem_places_concat]
        simp [hlabel]
      rwa [if_neg hlabel, hsame]

end Program

theorem compileFrom_eq_ok_iff {p q : Program} {done : Nat} {lines : List String} :
    compileFrom p done lines = .ok q ↔
      ∃ tss, List.Forall₂ (fun s ts => Line.parse s = .ok ts) lines tss ∧
        q = tss.foldl Program.add p := by
  induction lines generalizing p done with
  | nil =>
    constructor
    · intro h; cases h; exact ⟨[], .nil, rfl⟩
    · rintro ⟨tss, hp, rfl⟩; cases hp; rfl
  | cons s rest ih =>
    rw [compileFrom]
    constructor
    · intro h
      split at h
      · cases h
      · next ts hts =>
        obtain ⟨tss, hp, hq⟩ := ih.1 h
        exact ⟨ts :: tss, .cons (parse_of_read hts) hp, hq⟩
    · rintro ⟨_, hp, rfl⟩
      cases hp with
      | @cons _ ts _ tss hs hrest =>
        rw [read_of_parse (done + 1) hs]
        exact ih.2 ⟨tss, hrest, rfl⟩

/-- Source compiles exactly if each line parses, and the program is that of the parsed lines. -/
theorem compile_eq_ok_iff {lines : List String} {p : Program} :
    compile lines = .ok p ↔
      ∃ tss, List.Forall₂ (fun s ts => Line.parse s = .ok ts) lines tss ∧ p = .ofLines tss :=
  compileFrom_eq_ok_iff

/-! ## What compiling gives -/

theorem check_error {ts : List Token} {cause : Cause} (h : check ts = .error cause) :
    cause.code = .validation := by
  unfold check at h
  split at h
  · cases h
  · split at h
    · cases h; rfl
    · split at h
      · cases h; rfl
      · split at h
        · cases h
        · cases h; rfl

theorem parse_error {s : String} {cause : Cause} (h : Line.parse s = .error cause) :
    cause.code = .tokenizer ∨ cause.code = .validation := by
  unfold Line.parse at h
  split at h
  · next hts => cases h; exact .inl (Token.tokens_error hts)
  · split at h
    · next hc => cases h; exact .inr (check_error hc)
    · cases h

theorem fault_of_read {number : Nat} {s : String} {f : Fault} (h : Line.read number s = .error f) :
    f.line = some number ∧ (f.code = .tokenizer ∨ f.code = .validation) := by
  unfold Line.read at h
  split at h
  · next hp => cases h; exact ⟨rfl, parse_error hp⟩
  · cases h

/-- The lines up to the one at which compiling stops have been read. -/
theorem compileFrom_error {p : Program} {done : Nat} {lines : List String} {f : Fault}
    (h : compileFrom p done lines = .error f) :
    ∃ i s, lines[i]? = some s ∧ Line.read (done + i + 1) s = .error f ∧
      ∀ j < i, ∀ s', lines[j]? = some s' → ∃ ts, Line.read (done + j + 1) s' = .ok ts := by
  induction lines generalizing p done with
  | nil => cases h
  | cons s rest ih =>
    rw [compileFrom] at h
    split at h
    · next hread =>
      cases h
      refine ⟨0, s, rfl, hread, ?_⟩
      intro j hj
      exact absurd hj (Nat.not_lt_zero j)
    · next ts hread =>
      obtain ⟨i, s', hs', hfault, hbefore⟩ := ih h
      rw [Nat.add_right_comm done 1] at hfault
      refine ⟨i + 1, s', hs', hfault, ?_⟩
      intro j hj s'' hs''
      cases j with
      | zero => cases hs''; exact ⟨ts, hread⟩
      | succ j =>
        have hread' := hbefore j (by omega) s'' hs''
        rw [Nat.add_right_comm done 1] at hread'
        exact hread'

/-- A source line that can be read and starts with a label. -/
def Labelled (lines : List String) (i : Nat) (name : String) : Prop :=
  ∃ s ts, lines[i]? = some s ∧ Line.read (i + 1) s = .ok (⟨.label, name⟩ :: ts)

/-- What a program has for a source line: the tokens behind the label, or `NOP` where nothing is left. -/
inductive Leaves : List Token → List Token → Prop where
  | blank : Leaves [] [⟨.command, "NOP"⟩]
  | label (name : String) : Leaves [⟨.label, name⟩] [⟨.command, "NOP"⟩]
  | labelled (name : String) (t : Token) (ts : List Token) : Leaves (⟨.label, name⟩ :: t :: ts) (t :: ts)
  | bare {t : Token} (ts : List Token) : t.kind ≠ .label → Leaves (t :: ts) (t :: ts)

theorem leaves_instructionOf (ts : List Token) : Leaves ts (Program.instructionOf (unlabelled ts)) := by
  cases ts with
  | nil => exact .blank
  | cons t ts =>
    obtain ⟨kind, text⟩ := t
    by_cases hk : kind = .label
    · subst hk
      cases ts with
      | nil => exact .label text
      | cons u us => exact .labelled text u us
    · have hlabel : Token.isLabel ⟨kind, text⟩ = false := by simpa [Token.isLabel] using hk
      rw [unlabelled, hlabel]
      exact .bare ts hk

/-- What a program is to be, said about its source lines. -/
structure Assembled (lines : List String) (p : Program) : Prop where
  size : p.size = lines.length
  line : ∀ i s ts, lines[i]? = some s → Line.read (i + 1) s = .ok ts →
    ∃ us, p.line? i = some us ∧ Leaves ts us
  label : ∀ name i, p.lookup name = .ok i ↔ IsGreatest {j | Labelled lines j name} i
  unknown : ∀ name, (∀ i, ¬ Labelled lines i name) → ∃ cause, p.lookup name = .error cause ∧
    ({ cause } : Fault).report = ⟨.software, none, "CANNOT FIND LABEL " ++ name⟩

/-- The fault of the first source line that cannot be read. -/
structure FirstFault (lines : List String) (f : Fault) : Prop where
  line : ∃ i s, lines[i]? = some s ∧ Line.read (i + 1) s = .error f ∧ f.line = some (i + 1) ∧
    ∀ j < i, ∀ s', lines[j]? = some s' → ∃ ts, Line.read (j + 1) s' = .ok ts
  code : f.code = .tokenizer ∨ f.code = .validation

theorem labelOf_eq_some_iff {ts : List Token} {name : String} :
    Program.labelOf ts = some name ↔ ∃ us, ts = ⟨.label, name⟩ :: us := by
  constructor
  · intro h
    cases ts with
    | nil => cases h
    | cons t us =>
      obtain ⟨kind, text⟩ := t
      simp only [Program.labelOf, Token.isLabel, beq_iff_eq] at h
      split at h
      · next hkind => cases h; cases hkind; exact ⟨us, rfl⟩
      · cases h
  · rintro ⟨us, rfl⟩
    rfl

theorem mem_places_iff {lines : List String} {tss : List (List Token)} {name : String} {i : Nat}
    (h : List.Forall₂ (fun s ts => Line.parse s = .ok ts) lines tss) :
    i ∈ Program.places tss name ↔
      ∃ s ts, lines[i]? = some s ∧ Line.parse s = .ok ts ∧ Program.labelOf ts = some name := by
  induction h generalizing i with
  | nil => simp [Program.places]
  | @cons s ts lines tss hs _ ih =>
    cases i with
    | zero =>
      constructor
      · rintro ⟨us, hus, hlabel⟩
        cases hus
        exact ⟨s, ts, rfl, hs, hlabel⟩
      · rintro ⟨s', us, hs', hparse, hlabel⟩
        cases hs'
        rw [hs] at hparse
        cases hparse
        exact ⟨ts, rfl, hlabel⟩
    | succ i => exact ih

theorem labelled_eq_places {lines : List String} {tss : List (List Token)} (name : String)
    (h : List.Forall₂ (fun s ts => Line.parse s = .ok ts) lines tss) :
    {i | Labelled lines i name} = Program.places tss name := by
  ext i
  rw [mem_places_iff h]
  constructor
  · rintro ⟨s, us, hs, hread⟩
    exact ⟨s, _, hs, parse_of_read hread, labelOf_eq_some_iff.2 ⟨us, rfl⟩⟩
  · rintro ⟨s, ts, hs, hparse, hlabel⟩
    obtain ⟨us, rfl⟩ := labelOf_eq_some_iff.1 hlabel
    exact ⟨s, us, hs, read_of_parse (i + 1) hparse⟩

theorem assembled_compile {lines : List String} {p : Program} (h : compile lines = .ok p) :
    Assembled lines p where
  size := size_compile h
  line i s ts hs hread := by
    obtain ⟨us, hparse, hline⟩ := line?_compile h hs
    rw [parse_of_read hread] at hparse
    cases hparse
    exact ⟨_, hline, leaves_instructionOf ts⟩
  label name i := by
    obtain ⟨tss, hparse, rfl⟩ := compile_eq_ok_iff.1 h
    rw [labelled_eq_places name hparse, Program.lookup]
    rcases Program.find?_ofLines tss name with ⟨k, hk, hlast⟩ | ⟨hnone, hempty⟩
    · rw [hk]
      constructor
      · intro hi; cases hi; exact hlast
      · intro hi; rw [hi.unique hlast]
    · rw [hnone]
      constructor
      · intro hi; cases hi
      · intro hi; exact absurd hi.1 (hempty i)
  unknown name hname := by
    obtain ⟨tss, hparse, rfl⟩ := compile_eq_ok_iff.1 h
    refine ⟨.noSuchLabel name, ?_, rfl⟩
    rw [Program.lookup]
    rcases Program.find?_ofLines tss name with ⟨k, hk, hlast⟩ | ⟨hnone, hempty⟩
    · rw [← labelled_eq_places name hparse] at hlast
      exact absurd hlast.1 (hname k)
    · rw [hnone]

theorem firstFault_compile {lines : List String} {f : Fault} (h : compile lines = .error f) :
    FirstFault lines f := by
  obtain ⟨i, s, hs, hfault, hbefore⟩ := compileFrom_error h
  simp only [Nat.zero_add] at hfault hbefore
  obtain ⟨hline, hcode⟩ := fault_of_read hfault
  exact ⟨⟨i, s, hs, hfault, hline, hbefore⟩, hcode⟩

/-- Source compiles exactly if each of its lines can be read. The program then has the instruction of every
line at the place of the line, and each label at the last line that starts with it. Otherwise the fault is
that of the first line that cannot be read. -/
theorem compile_cases (lines : List String) :
    ((∃ p, compile lines = .ok p) ↔
      ∀ i s, lines[i]? = some s → ∃ ts, Line.read (i + 1) s = .ok ts) ∧
    (∀ p, compile lines = .ok p → Assembled lines p) ∧
    ∀ f, compile lines = .error f → FirstFault lines f := by
  refine ⟨⟨?_, ?_⟩, fun p => assembled_compile, fun f => firstFault_compile⟩
  · rintro ⟨p, hp⟩ i s hs
    obtain ⟨ts, hparse, -⟩ := line?_compile hp hs
    exact ⟨ts, read_of_parse (i + 1) hparse⟩
  · intro hall
    cases h : compile lines with
    | ok p => exact ⟨p, rfl⟩
    | error f =>
      obtain ⟨i, s, hs, hfault, -⟩ := (firstFault_compile h).line
      obtain ⟨ts, hread⟩ := hall i s hs
      rw [hread] at hfault
      cases hfault

end Quadcopter
