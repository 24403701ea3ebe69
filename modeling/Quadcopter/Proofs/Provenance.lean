import Quadcopter.Proofs.Path
import Quadcopter.Proofs.Stacks

/-!
# Quadcopter.Proofs.Provenance

Where the photos of a run come from. `TAKE_PIC` and `LOAD_PIC` make new photos, every other instruction
moves photos between the picture registers and the picture stack or shows them.

* `Core.Holds`: the photos that a core holds; `holds_of_ran`: an instruction that makes no photo adds none.
* `obtained?`: the photo that an instruction of a run has made.
* `Traced`: the invariant. What is held was made, and no two instructions have made photos with one number:
  the simulator's camera renders each frame anew, so each photo has the number of photos made before it.
* `Machine.Sees`: the photos that are held or shown at the points of a run.
* `photos_of_run`: every photo is that of one execution, and is the same as another exactly if they are
  of one execution.
-/

namespace Quadcopter

variable {V E : Type}

/-! ## Cores -/

/-- The register in which an instruction keeps the photo that it makes. -/
def Instruction.keeps? : Instruction → Option PicReg
  | .takePic dest => some dest
  | .loadPic _ dest => some dest
  | _ => none

namespace Core

/-- A photo is in a picture register or on the picture stack. -/
def Holds (c : Core) (photo : Photo) : Prop :=
  some photo ∈ c.pictures ∨ some photo ∈ c.pictureStack.items

variable {p : Program} {c d : Core} {i : Instruction} {photo : Photo}

theorem not_holds_initial : ¬ initial.Holds photo := by
  rintro (h | h)
  · exact nomatch (Vector.mem_replicate.1 h).2
  · cases h

theorem holds_of_eq (hp : d.pictures = c.pictures) (hs : d.pictureStack = c.pictureStack)
    (h : d.Holds photo) : c.Holds photo := by
  unfold Holds at *
  rwa [← hp, ← hs]

theorem holds_of_setPicture {dest : PicReg} {x : Option Photo} (h : (c.setPicture dest x).Holds photo) :
    c.Holds photo ∨ x = some photo := by
  rcases h with h | h
  · have hset : some photo ∈ c.pictures.set dest x dest.isLt := h
    rcases Vector.mem_or_eq_of_mem_set hset with h | h
    · exact .inl (.inl h)
    · exact .inr h.symm
  · exact .inl (.inr h)

theorem holds_of_keep {dest : PicReg} {new : Photo} (h : (c.keep dest new).Holds photo) :
    c.Holds photo ∨ new = photo := by
  rcases holds_of_setPicture (x := some new) h with h | h
  · exact .inl h
  · exact .inr (Option.some.inj h)

theorem get_keep (c : Core) (dest : PicReg) (new : Photo) : (c.keep dest new).pictures.get dest = some new :=
  Vector.getElem_set_self ..

/-- An instruction that makes no photo holds no other photos than before it. -/
theorem holds_of_ran (hr : c.Ran p i d) (hi : i.keeps? = none) :
    d.made = c.made ∧ ∀ photo, d.Holds photo → c.Holds photo := by
  cases hr with
  | takePic dest frame => cases hi
  | loadPic file dest picture => cases hi
  | copyPic source dest =>
    refine ⟨rfl, fun photo h => ?_⟩
    rcases holds_of_setPicture h with h | h
    · exact h
    · exact .inl (h ▸ Vector.getElem_mem source.isLt)
  | @pushPic source s hs =>
    refine ⟨rfl, ?_⟩
    rintro photo (h | h)
    · exact .inl h
    · rw [Stack.items_push hs] at h
      rcases List.mem_cons.1 h with h | h
      · exact .inl (h ▸ Vector.getElem_mem source.isLt)
      · exact .inr h
  | @popPic dest x s hs =>
    have hitems := Stack.items_pop hs
    refine ⟨rfl, ?_⟩
    rintro photo (h | h)
    · rcases holds_of_setPicture (c := c) (.inl h) with h | h
      · exact h
      · exact .inr (by rw [hitems, h]; exact List.mem_cons_self)
    · exact .inr (by rw [hitems]; exact List.mem_cons_of_mem _ h)
  | _ => exact ⟨rfl, fun photo => holds_of_eq rfl rfl⟩

theorem holds_of_eventOf (h : c.eventOf i = .show photo) : c.Holds photo := by
  cases i with
  | display what =>
    cases what with
    | picture source =>
      simp only [eventOf, shown, Core.photo] at h
      split at h
      · next held hget =>
        cases h
        exact .inl (hget ▸ Vector.getElem_mem source.isLt)
      · cases h
    | _ => cases h
  | _ => cases h

end Core

/-! ## What a run has made -/

/-- The photo that an instruction has made. -/
def Carried.photo? (d : Carried) : Option Photo :=
  d.instruction.keeps?.bind fun dest => d.after.pictures.get dest

/-- The photo that the instruction at a place of a run has made. -/
def obtained? (done : List Carried) (k : Nat) : Option Photo := done[k]?.bind Carried.photo?

theorem obtained?_append {done : List Carried} {k : Nat} {photo : Photo} (later : List Carried)
    (h : obtained? done k = some photo) : obtained? (done ++ later) k = some photo := by
  obtain ⟨d, hd, hphoto⟩ := Option.bind_eq_some_iff.1 h
  have hk : k < done.length := (List.getElem?_eq_some_iff.1 hd).1
  rw [obtained?, List.getElem?_append_left hk]
  exact h

theorem obtained?_concat {done : List Carried} {d : Carried} {k : Nat} {photo : Photo}
    (h : obtained? (done ++ [d]) k = some photo) :
    obtained? done k = some photo ∨ (k = done.length ∧ d.photo? = some photo) := by
  unfold obtained? at *
  rcases Nat.lt_trichotomy k done.length with hk | rfl | hk
  · rw [List.getElem?_append_left hk] at h
    exact .inl h
  · rw [List.getElem?_concat_length] at h
    exact .inr ⟨rfl, h⟩
  · rw [List.getElem?_eq_none (by simp; omega)] at h
    cases h

/-- Every photo that is held has been made, and photos are numbered in the order in which they were. -/
structure Traced (c : Core) (done : List Carried) : Prop where
  held : ∀ photo, c.Holds photo → ∃ k, obtained? done k = some photo
  numbered : ∀ k photo, obtained? done k = some photo → ∃ n < c.made, photo.origin = .made n
  apart : ∀ j k a b, obtained? done j = some a → obtained? done k = some b → a.origin = b.origin → j = k

namespace Traced

variable {p : Program} {c d : Core} {i : Instruction} {done : List Carried}

theorem initial : Traced .initial [] where
  held _ h := absurd h Core.not_holds_initial
  numbered _ _ h := by cases h
  apart _ _ _ _ h := by cases h

/-- An instruction that makes no photo. -/
theorem moved (h : Traced c done) (hr : c.Ran p i d) (hi : i.keeps? = none) :
    Traced d (done ++ [⟨c, i, d⟩]) := by
  obtain ⟨hmade, hholds⟩ := Core.holds_of_ran hr hi
  have hold : ∀ {k photo}, obtained? (done ++ [⟨c, i, d⟩]) k = some photo → obtained? done k = some photo := by
    intro k photo hk
    rcases obtained?_concat hk with hk | ⟨-, hk⟩
    · exact hk
    · simp [Carried.photo?, hi] at hk
  constructor
  · intro photo hphoto
    obtain ⟨k, hk⟩ := h.held photo (hholds photo hphoto)
    exact ⟨k, obtained?_append _ hk⟩
  · intro k photo hk
    rw [hmade]
    exact h.numbered k photo (hold hk)
  · intro j k a b hj hk
    exact h.apart j k a b (hold hj) (hold hk)

/-- An instruction that makes a photo with the next number. -/
theorem kept (h : Traced c done) {dest : PicReg} {picture : Picture} (hi : i.keeps? = some dest)
    (hd : d = c.keep dest ⟨.made c.made, picture⟩) : Traced d (done ++ [⟨c, i, d⟩]) := by
  have hmade : d.made = c.made + 1 := by rw [hd]; rfl
  have hnew : (⟨c, i, d⟩ : Carried).photo? = some ⟨.made c.made, picture⟩ := by
    rw [Carried.photo?, hi, hd]
    exact c.get_keep dest _
  have hlast : obtained? (done ++ [⟨c, i, d⟩]) done.length = some ⟨.made c.made, picture⟩ := by
    rw [obtained?, List.getElem?_concat_length]
    exact hnew
  -- the number of the new photo is larger than those of all others
  have hfresh : ∀ k photo, obtained? done k = some photo → photo.origin ≠ .made c.made := by
    intro k photo hk heq
    obtain ⟨n, hn, horigin⟩ := h.numbered k photo hk
    rw [horigin] at heq
    cases heq
    omega
  constructor
  · intro photo hphoto
    rw [hd] at hphoto
    rcases Core.holds_of_keep hphoto with hphoto | rfl
    · obtain ⟨k, hk⟩ := h.held photo hphoto
      exact ⟨k, obtained?_append _ hk⟩
    · exact ⟨done.length, hlast⟩
  · intro k photo hk
    rcases obtained?_concat hk with hk | ⟨-, hk⟩
    · obtain ⟨n, hn, horigin⟩ := h.numbered k photo hk
      exact ⟨n, by omega, horigin⟩
    · rw [hnew] at hk
      cases hk
      exact ⟨c.made, by omega, rfl⟩
  · intro j k a b hj hk hab
    rcases obtained?_concat hj with hj | ⟨hj, ha⟩
    · rcases obtained?_concat hk with hk | ⟨hk, hb⟩
      · exact h.apart j k a b hj hk hab
      · rw [hnew] at hb
        cases hb
        exact absurd hab (hfresh j a hj)
    · rcases obtained?_concat hk with hk | ⟨hk, -⟩
      · rw [hnew] at ha
        cases ha
        exact absurd hab.symm (hfresh k b hk)
      · rw [hj, hk]

end Traced

/-! ## Runs -/

namespace Machine

section

variable [Vehicle V] [Vision E] {m : Machine V E}

theorem result_of_carried {files : Files} {d : Carried} (h : m.carried? files = some d) :
    ∃ v event, m.contact = .live v ∧ (m.result files v d.instruction).outcome = .ok event ∧
      d.after = (m.result files v d.instruction).core := by
  unfold carried? at h
  split at h
  · next v i hc hi hf =>
    have hin : m.core.pc < m.program.size := by
      refine Nat.lt_of_not_le fun hle => ?_
      rw [fetch_of_size_le hle] at hf
      cases hf
    rw [step_of_runs files ⟨hc, hi, hin, hf⟩] at h
    cases ho : (m.result files v i).outcome with
    | error cause => rw [perform_error ho] at h; cases h
    | ok event =>
      -- a halt ends the run, but it has been carried out as well
      by_cases hs : event = .stopped
      · obtain rfl := (Core.execute_ok ho).2 hs
        cases h
        exact ⟨v, event, hc, ho, rfl⟩
      · rw [perform_ok ho hs] at h
        split at h
        · cases h
        · next hm =>
          cases h
          cases hm
          exact ⟨v, event, hc, ho, rfl⟩
  · cases h

theorem carried_append (m : Machine V E) (as bs : List (Act E)) :
    m.carried (as ++ bs) = m.carried as ++ (m.acts as).carried bs := by
  induction as generalizing m with
  | nil => rfl
  | cons a as ih => rw [List.cons_append, carried, ih, carried, List.append_assoc, acts_cons]

theorem holds_of_show {files : Files} {photo : Photo} (h : (m.step files).1 = .show photo) :
    m.core.Holds photo := by
  have hs := m.step_spec files
  rw [h] at hs
  generalize (m.step files).2 = m' at hs
  cases hs with
  | ran runs ho hne herr => exact Core.holds_of_eventOf (Core.event_of_execute ho).symm

/-- At some point of a run a photo is in a picture register, on the picture stack, or in the event of the
step that is made there. What the run has carried out `earlier` ends at that point. -/
inductive Sees (m : Machine V E) (as : List (Act E)) (photo : Photo) : List Carried → Prop where
  | held {before after : List (Act E)} : as = before ++ after → (m.acts before).core.Holds photo →
      Sees m as photo (m.carried before)
  | shown {before after : List (Act E)} {files : Files} : as = before ++ .step files :: after →
      ((m.acts before).step files).1 = .show photo → Sees m as photo (m.carried before)

theorem holds_of_sees {as : List (Act E)} {photo : Photo} {earlier : List Carried}
    (h : m.Sees as photo earlier) :
    ∃ before after, as = before ++ after ∧ earlier = m.carried before ∧
      (m.acts before).core.Holds photo := by
  cases h with
  | @held before after has hholds => exact ⟨before, after, has, rfl, hholds⟩
  | @shown before after files has hshow => exact ⟨before, _, has, rfl, holds_of_show hshow⟩

end
end Machine

/-! ## Runs on the simulator -/

/-- The simulator's camera has a frame at the first look, and no two looks share one. -/
theorem awaitFrame_simulated {n : Nat} {s : Reckoning} {frame : Frame} {v : Craft}
    (h : awaitFrame n (Craft.simulated s) = (some frame, v)) : frame = .fresh simulatedFrame := by
  cases n with
  | zero => cases h
  | succ n => cases h; rfl

namespace Machine

variable [Vision E] {m : Machine Craft E}

/-- An instruction that makes a photo numbers it by those that were made before. -/
theorem keep_of_result {s : Reckoning} {files : Files} {i : Instruction} {dest : PicReg} {event : Event}
    (hi : i.keeps? = some dest) (ho : (m.result files (.simulated s) i).outcome = .ok event) :
    ∃ picture, (m.result files (.simulated s) i).core = m.core.keep dest ⟨.made m.core.made, picture⟩ := by
  cases i with
  | takePic dest' =>
    cases hi
    simp only [result, Core.execute] at ho ⊢
    split at ho
    · next frame v hf =>
      rw [awaitFrame_simulated hf]
      exact ⟨_, rfl⟩
    · cases ho
  | loadPic file dest' =>
    cases hi
    refine Core.of_proceed (P := fun d => ∃ picture, d = m.core.keep dest ⟨.made m.core.made, picture⟩) ho ?_
    intro d hd
    obtain ⟨picture, -, rfl⟩ := map_eq_ok hd
    exact ⟨picture, rfl⟩
  | _ => cases hi

theorem traced_step {done : List Carried} (files : Files) (hm : m.Coupled Craft.Simulates)
    (h : Traced m.core done) : Traced (m.step files).2.core (done ++ (m.carried? files).toList) := by
  rcases m.carried?_cases files with ⟨hnone, hcore⟩ | ⟨i, hsome, hran⟩
  · rw [hnone, hcore]
    simpa using h
  rw [hsome, Option.toList_some]
  cases hi : i.keeps? with
  | none => exact h.moved hran hi
  | some dest =>
    obtain ⟨v, event, hlive, ho, hafter⟩ := result_of_carried hsome
    obtain ⟨_, hv, s, rfl, -⟩ := hm
    rw [hlive] at hv
    cases hv
    obtain ⟨picture, hkeep⟩ := keep_of_result hi ho
    exact h.kept hi (hafter.trans hkeep)

theorem traced_acts (done : List Carried) (as : List (Act E)) (hm : m.Coupled Craft.Simulates)
    (h : Traced m.core done) : Traced (m.acts as).core (done ++ m.carried as) := by
  induction as generalizing m done with
  | nil => simpa [carried] using h
  | cons a as ih =>
    rw [carried, ← List.append_assoc, acts_cons]
    refine ih _ (Craft.coupling_simulates.requests [.act a] hm) ?_
    rcases m.carriedBy_cases a with ⟨hnone, hcore⟩ | ⟨files, i, rfl, -, -⟩
    · rw [hnone, hcore, List.append_nil]
      exact h
    · exact traced_step files hm h

end Machine

/-- Take any photo that is in a picture register, on the picture stack or shown at some point of a run on
the simulator. One instruction that was carried out until then has made it, with the pixels that it has
now, and none of the others has made the same one. Two such photos, at whatever points of the run, are the
same exactly if one instruction has made both. -/
theorem photos_of_run [Vision E] (m : Machine Craft E) (p : Program) (as : List (Act E)) :
    let started := (m.start p (.simulated .start)).2
    (∀ photo earlier, started.Sees as photo earlier →
      earlier <+: started.carried as ∧
        ∃ k, obtained? earlier k = some photo ∧
          ∀ j made, obtained? earlier j = some made → made.same photo = true → j = k) ∧
    ∀ a b earlierA earlierB j k, started.Sees as a earlierA → started.Sees as b earlierB →
      obtained? earlierA j = some a → obtained? earlierB k = some b → (a.same b = true ↔ j = k) := by
  intro started
  have hcoupled : started.Coupled Craft.Simulates := Craft.coupling_simulates.start m p ⟨_, rfl, rfl, rfl⟩
  have hcore : started.core = .initial := m.core_start p _
  have htraced : ∀ as, Traced (started.acts as).core (started.carried as) := by
    intro as
    exact Machine.traced_acts [] as hcoupled (by rw [hcore]; exact Traced.initial)
  have hearlier : ∀ {photo earlier}, started.Sees as photo earlier → earlier <+: started.carried as := by
    intro photo earlier h
    obtain ⟨before, after, rfl, rfl, -⟩ := Machine.holds_of_sees h
    rw [Machine.carried_append]
    exact List.prefix_append ..
  constructor
  · intro photo earlier h
    refine ⟨hearlier h, ?_⟩
    obtain ⟨before, after, -, rfl, hholds⟩ := Machine.holds_of_sees h
    obtain ⟨k, hk⟩ := (htraced before).held photo hholds
    refine ⟨k, hk, ?_⟩
    intro j made hj hsame
    exact (htraced before).apart j k made photo hj hk (beq_iff_eq.1 hsame)
  · intro a b earlierA earlierB j k ha hb hj hk
    obtain ⟨laterA, hlaterA⟩ := hearlier ha
    obtain ⟨laterB, hlaterB⟩ := hearlier hb
    have hj' : obtained? (started.carried as) j = some a := hlaterA ▸ obtained?_append laterA hj
    have hk' : obtained? (started.carried as) k = some b := hlaterB ▸ obtained?_append laterB hk
    rw [Photo.same, beq_iff_eq]
    constructor
    · exact (htraced as).apart j k a b hj' hk'
    · rintro rfl
      rw [hj'] at hk'
      cases hk'
      rfl

/-- Two photos of one view are not the same, and one that is shown from a copy is the one that was
copied. -/
theorem photos_of_run_copied :
    let p : Program :=
      ⟨#[⟨none, [.ofMnemonic .takePic, ⟨.pictureRegister, "0"⟩]⟩,
         ⟨none, [.ofMnemonic .takePic, ⟨.pictureRegister, "1"⟩]⟩,
         ⟨none, [.ofMnemonic .copyPic, ⟨.pictureRegister, "0"⟩, ⟨.pictureRegister, "2"⟩]⟩,
         ⟨none, [.ofMnemonic .display, ⟨.pictureRegister, "2"⟩]⟩]⟩
    let before : List (Act Blind) := List.replicate 3 (.step .empty)
    let as := before ++ [.step .empty]
    let started := ((Machine.new 0 Blind.mk).start p (Craft.simulated .start)).2
    let earlier := started.carried before
    ∃ shown other : Photo, ((started.acts before).step .empty).1 = .show shown ∧
      started.Sees as shown earlier ∧ started.Sees as other earlier ∧
      obtained? earlier 0 = some shown ∧ obtained? earlier 1 = some other ∧
      shown.picture = other.picture ∧ shown.same shown = true ∧ shown.same other = false := by
  intro p before as started earlier
  have hshow : ((started.acts before).step .empty).1 = .show ⟨.made 0, simulatedFrame⟩ := by
    dsimp only [started, before, p]
    rfl
  have hget : (started.acts before).core.pictures.get ⟨1, by decide⟩ = some ⟨.made 1, simulatedFrame⟩ := by
    dsimp only [started, before, p]
    rfl
  have hmade : obtained? earlier 0 = some ⟨.made 0, simulatedFrame⟩ ∧
      obtained? earlier 1 = some ⟨.made 1, simulatedFrame⟩ := by
    dsimp only [earlier, started, before, p]
    exact ⟨rfl, rfl⟩
  have hshown : started.Sees as ⟨.made 0, simulatedFrame⟩ earlier := .shown rfl hshow
  have hother : started.Sees as ⟨.made 1, simulatedFrame⟩ earlier :=
    .held rfl (.inl (hget ▸ Vector.getElem_mem (by decide)))
  obtain ⟨-, hsame⟩ := photos_of_run (.new 0 Blind.mk) p as
  refine ⟨_, _, hshow, hshown, hother, hmade.1, hmade.2, rfl, ?_, ?_⟩
  · exact (hsame _ _ earlier earlier 0 0 hshown hshown hmade.1 hmade.1).2 rfl
  · rw [← Bool.not_eq_true, hsame _ _ earlier earlier 0 1 hshown hother hmade.1 hmade.2]
    decide

end Quadcopter
