import Quadcopter.Proofs.Listings

/-!
# Quadcopter.Proofs.Editing

Listings under edit. A line is read when it is added, at the number that it gets then, and again when the
listing is compiled, from the form in which it was kept.

* `compile_push`: a line that is added makes the program longer by what was read.
* `compile_pushAll`: adding lines until one is refused, and compiling what was kept, comes to compiling
  the lines.
* `Desk`: a listing with copies that were put aside. Whatever is done at it, the listing on it compiles
  (`compile_of_edits`).
-/

namespace Quadcopter

theorem compileFrom_append (p : Program) (done : Nat) (first second : List String) :
    compileFrom p done (first ++ second) =
      (compileFrom p done first).bind fun q => compileFrom q (done + first.length) second := by
  induction first generalizing p done with
  | nil => rfl
  | cons s rest ih =>
    rw [List.cons_append, compileFrom, compileFrom]
    cases Line.read (done + 1) s with
    | error f => rfl
    | ok ts =>
      dsimp only
      rw [ih, List.length_cons, Nat.add_right_comm, Nat.add_assoc]

namespace Listing

theorem read_kept (number : Nat) (s : String) : Line.read number (kept s) = Line.read number s := by
  rw [Line.read, Line.read, parse_kept]

variable {l : Listing} {p : Program} {s : String}

theorem push_of_read (h : s.utf8ByteSize ≤ maxLineBytes) {ts : List Token}
    (hs : Line.read (l.size + 1) s = .ok ts) : l.push s = (.ok (), ⟨l.lines.push (kept s)⟩) := by
  rw [push, if_neg (Nat.not_lt.2 h), hs]

theorem push_of_read_error (h : s.utf8ByteSize ≤ maxLineBytes) {f : Fault}
    (hs : Line.read (l.size + 1) s = .error f) : l.push s = (.error f, l) := by
  rw [push, if_neg (Nat.not_lt.2 h), hs]

/-- The line that was kept is read as the line that was added. -/
theorem compile_push {ts : List Token} (hl : l.compile = .ok p) (hs : Line.read (l.size + 1) s = .ok ts) :
    compile ⟨l.lines.push (kept s)⟩ = .ok (p.add ts) := by
  have hsize : l.lines.toList.length = l.size := rfl
  rw [compile, Array.toList_push, Quadcopter.compile, compileFrom_append]
  rw [compile, Quadcopter.compile] at hl
  rw [hl]
  simp only [Except.bind, compileFrom, Nat.zero_add, hsize, read_kept, hs]

/-- Adding lines to a listing until one is refused, and compiling what was kept, comes to going on with
the program of the listing. -/
theorem compile_pushAll {lines : List String} (h : ∀ s ∈ lines, s.utf8ByteSize ≤ maxLineBytes)
    (hl : l.compile = .ok p) : (l.pushAll lines).bind (·.compile) = compileFrom p l.size lines := by
  induction lines generalizing l p with
  | nil => exact hl
  | cons s rest ih =>
    obtain ⟨hs, hrest⟩ := List.forall_mem_cons.1 h
    rw [pushAll, compileFrom]
    cases hread : Line.read (l.size + 1) s with
    | error f => rw [push_of_read_error hs hread]; rfl
    | ok ts =>
      rw [push_of_read hs hread]
      have hnext := ih hrest (compile_push hl hread)
      have hsize : size ⟨l.lines.push (kept s)⟩ = l.size + 1 := Array.size_push _
      rw [hsize] at hnext
      exact hnext

theorem size_of_compile (h : l.compile = .ok p) : p.size = l.size := size_compile h

end Listing

/-! ## Edits -/

/-- What can be done with a listing: a line added, all lines taken away, the listing copied, or a copy
taken in its place. -/
inductive Edit where
  | push (s : String)
  | clear
  | snapshot
  | restore (k : Nat)

/-- A listing, and the copies that were made of it. -/
structure Desk where
  listing : Listing
  copies : List Listing

namespace Desk

def empty : Desk := ⟨.empty, []⟩

/-- What an edit leaves, and whether it was refused. Where there is no copy an empty listing is taken. -/
def edit (d : Desk) : Edit → Except Fault Unit × Desk
  | .push s => ((d.listing.push s).1, { d with listing := (d.listing.push s).2 })
  | .clear => (.ok (), { d with listing := .empty })
  | .snapshot => (.ok (), { d with copies := d.copies ++ [d.listing] })
  | .restore k => (.ok (), { d with listing := d.copies.getD k .empty })

def edits (d : Desk) (es : List Edit) : Desk := es.foldl (fun d e => (d.edit e).2) d

/-- Each listing at the desk has accepted lines only. -/
def Sound (d : Desk) : Prop := d.listing.Sound ∧ ∀ l ∈ d.copies, l.Sound

variable {d : Desk}

theorem Sound.edit (h : d.Sound) (e : Edit) : (d.edit e).2.Sound := by
  obtain ⟨hlisting, hcopies⟩ := h
  cases e with
  | push s =>
    exact ⟨hlisting.push rfl, hcopies⟩
  | clear => exact ⟨.empty, hcopies⟩
  | snapshot =>
    refine ⟨hlisting, ?_⟩
    intro l hl
    rcases List.mem_append.1 hl with hl | hl
    · exact hcopies l hl
    · rw [List.mem_singleton.1 hl]
      exact hlisting
  | restore k =>
    refine ⟨?_, hcopies⟩
    show (d.copies.getD k .empty).Sound
    rw [List.getD_eq_getElem?_getD]
    cases hk : d.copies[k]? with
    | none => exact .empty
    | some l => exact hcopies l (List.mem_of_getElem? hk)

theorem Sound.edits (h : d.Sound) (es : List Edit) : (d.edits es).Sound := by
  induction es generalizing d with
  | nil => exact h
  | cons e es ih => exact ih (h.edit e)

end Desk

/-- Lines of at most 1024 bytes, added to an empty listing until one is refused and then compiled, give
what compiling them gives: the same program or the same fault. An addition that is refused leaves everything
as it was. Whatever listing comes about by edits compiles to a program of as many lines. -/
theorem listing_agrees :
    (∀ lines : List String, (∀ s ∈ lines, s.utf8ByteSize ≤ 1024) →
      (Listing.empty.pushAll lines).bind (·.compile) = compile lines) ∧
    (∀ (d : Desk) (s : String) (f : Fault), (d.edit (.push s)).1 = .error f →
      (d.edit (.push s)).2 = d) ∧
    ∀ es : List Edit, ∃ p, (Desk.empty.edits es).listing.compile = .ok p ∧
      p.size = (Desk.empty.edits es).listing.size := by
  refine ⟨?_, ?_, ?_⟩
  · intro lines hshort
    exact Listing.compile_pushAll hshort rfl
  · intro d s f hf
    have hlisting : (d.listing.push s).2 = d.listing := Listing.eq_of_push_error (Prod.ext hf rfl)
    rw [Desk.edit, hlisting]
  · intro es
    have h : (Desk.empty.edits es).Sound := Desk.Sound.edits ⟨.empty, by simp [Desk.empty]⟩ es
    obtain ⟨p, hp⟩ := h.1.compile
    exact ⟨p, hp, Listing.size_of_compile hp⟩

end Quadcopter
