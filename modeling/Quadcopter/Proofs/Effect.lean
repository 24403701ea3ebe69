import Quadcopter.Proofs.Step

/-!
# Quadcopter.Proofs.Effect

What an instruction that succeeds does to the core, said once (`Core.Ran`): for every instruction the
core after it, and what must have been there for it to succeed. What holds of the core along a run is
derived from these cases; an instruction that fails leaves the core as it is (`execute_error`).
-/

namespace Quadcopter

variable {V E : Type}

theorem find?_of_lookup {p : Program} {name : String} {a : Nat} (h : p.lookup name = .ok a) :
    p.find? name = some a := by
  unfold Program.lookup at h
  split at h
  · next hf => cases h; exact hf
  · cases h

namespace Core

/-- The core after an instruction that has succeeded. -/
inductive Ran (p : Program) (c : Core) : Instruction → Core → Prop where
  | nop : Ran p c .nop c.next
  | halt : Ran p c .halt c.next
  | jump {label : String} {a : Nat} : p.find? label = some a →
      Ran p c (.jump label) { c with pc := a }
  | jumpReturn : Ran p c .jumpReturn { c with pc := c.returnRegister }
  | pushReturn {label : String} {a : Nat} {s : Stack Nat} : p.find? label = some a →
      c.returnStack.push .ret a = .ok s → Ran p c (.pushReturn label) { c.next with returnStack := s }
  | popReturn {a : Nat} {s : Stack Nat} : c.returnStack.pop .ret = .ok (a, s) →
      Ran p c .popReturn { c.next with returnStack := s, returnRegister := a }
  | branch {relation : Relation} {lhs rhs : Operand} {label : String} {a : Nat} :
      relation.holds ((c.value lhs).compare? (c.value rhs)) = true → p.find? label = some a →
      Ran p c (.branch relation lhs rhs label) { c with pc := a }
  | pass {relation : Relation} {lhs rhs : Operand} {label : String} :
      relation.holds ((c.value lhs).compare? (c.value rhs)) = false →
      Ran p c (.branch relation lhs rhs label) c.next
  | store (source : Operand) (dest : NumReg) :
      Ran p c (.store source dest) (c.setNumber dest (c.value source))
  | copy (source dest : NumReg) :
      Ran p c (.copy source dest) (c.setNumber dest (c.numbers.get source))
  | copyPic (source dest : PicReg) :
      Ran p c (.copyPic source dest) (c.setPicture dest (c.pictures.get source))
  | pushNum {source : Operand} {s : Stack Value} : c.numberStack.push .number (c.value source) = .ok s →
      Ran p c (.pushNum source) { c.next with numberStack := s }
  | pushPic {source : PicReg} {s : Stack (Option Photo)} :
      c.pictureStack.push .picture (c.pictures.get source) = .ok s →
      Ran p c (.pushPic source) { c.next with pictureStack := s }
  | popNum {dest : NumReg} {x : Value} {s : Stack Value} : c.numberStack.pop .number = .ok (x, s) →
      Ran p c (.popNum dest) { c.setNumber dest x with numberStack := s }
  | popPic {dest : PicReg} {photo : Option Photo} {s : Stack (Option Photo)} :
      c.pictureStack.pop .picture = .ok (photo, s) →
      Ran p c (.popPic dest) { c.setPicture dest photo with pictureStack := s }
  | arithmetic {op : Arith} {lhs rhs : Operand} {dest : NumReg} {x : Value} :
      op.apply (c.value lhs) (c.value rhs) = .ok x →
      Ran p c (.arithmetic op lhs rhs dest) (c.setNumber dest x)
  | takeoff : Ran p c .takeoff (c.follow .takeoff)
  | land : Ran p c .land (c.follow .land)
  | move (motion : Motion) (amount : Operand) :
      Ran p c (.move motion amount) (c.travel motion (c.value amount).truncate)
  | display {what : Shown} {event : Event} : c.shown what = .ok event → Ran p c (.display what) c.next
  | takePic (dest : PicReg) (frame : Frame) :
      Ran p c (.takePic dest) (c.keep dest (frame.photo c.made))
  | loadPic (file : String) (dest : PicReg) (picture : Picture) :
      Ran p c (.loadPic file dest) (c.keep dest ⟨.made c.made, picture⟩)
  | unseen {picture : PicReg} {face : FaceReg} {dest : NumReg} {photo : Photo} :
      c.photo picture = .ok photo →
      Ran p c (.detectFace picture face dest) (c.setNumber dest (.int 0))
  | seen {picture : PicReg} {face : FaceReg} {dest : NumReg} {photo : Photo} (detection : Detection)
      (encoding : Option Encoding) : c.photo picture = .ok photo →
      Ran p c (.detectFace picture face dest)
        ({ c with faces := c.faces.set face ⟨some detection, encoding⟩ face.isLt }.setNumber dest (.int 1))
  | matchFace {first second : FaceReg} {dest : NumReg} (x : Float) :
      (c.faces.get first).encoding.isSome = true → (c.faces.get second).encoding.isSome = true →
      Ran p c (.matchFace first second dest) (c.setNumber dest (.float x))

/-- What holds of any core with which an instruction goes on holds of the one with which it went on. -/
theorem of_proceed {P : Core → Prop} {c : Core} {v : V} {e : E} {next : Except Cause Core} {event : Event}
    (h : (c.proceed v e next).outcome = .ok event) (hP : ∀ d, next = .ok d → P d) :
    P (c.proceed v e next).core := by
  cases next with
  | ok d => exact hP d rfl
  | error x => cases h

theorem core_of_order [Vehicle V] {c : Core} {v : V} {e : E} {o : Order} {done : Core}
    {event told : Event} (h : (c.order v e o done event).outcome = .ok told) :
    (c.order v e o done event).core = done := by
  rcases order_cases c v e o done event with ⟨-, hr⟩ | ⟨-, hr⟩
  · rw [hr]
  · rw [hr] at h; cases h

theorem jump_ok {p : Program} {c d : Core} {label : String} (h : c.jump p label = .ok d) :
    ∃ a, p.find? label = some a ∧ d = { c with pc := a } := by
  unfold jump at h
  split at h
  · cases h
  · next a ha => cases h; exact ⟨a, find?_of_lookup ha, rfl⟩

variable [Vehicle V] [Vision E] {files : Files} {looks : Nat} {p : Program} {c : Core} {v : V} {e : E}
  {i : Instruction} {event : Event}

/-- Every instruction that succeeds is one of the cases of `Ran`. -/
theorem ran_of_execute (h : (c.execute files looks p v e i).outcome = .ok event) :
    c.Ran p i (c.execute files looks p v e i).core := by
  cases i with
  | nop => exact .nop
  | halt => exact .halt
  | jump label =>
    refine of_proceed h fun d hd => ?_
    obtain ⟨a, ha, rfl⟩ := jump_ok hd
    exact .jump ha
  | jumpReturn => exact .jumpReturn
  | pushReturn label =>
    refine of_proceed h fun d hd => ?_
    unfold pushReturn at hd
    split at hd
    · cases hd
    · next a ha =>
      obtain ⟨s, hs, rfl⟩ := map_eq_ok hd
      exact .pushReturn (find?_of_lookup ha) hs
  | popReturn =>
    refine of_proceed h fun d hd => ?_
    obtain ⟨⟨a, s⟩, hs, rfl⟩ := map_eq_ok hd
    exact .popReturn hs
  | branch relation lhs rhs label =>
    refine of_proceed h fun d hd => ?_
    unfold branch at hd
    split at hd
    · next hb =>
      obtain ⟨a, ha, rfl⟩ := jump_ok hd
      exact .branch hb ha
    · next hb =>
      cases hd
      exact .pass (by simpa using hb)
  | store source dest => exact .store source dest
  | copy source dest => exact .copy source dest
  | copyPic source dest => exact .copyPic source dest
  | pushNum source =>
    refine of_proceed h fun d hd => ?_
    obtain ⟨s, hs, rfl⟩ := map_eq_ok hd
    exact .pushNum hs
  | pushPic source =>
    refine of_proceed h fun d hd => ?_
    obtain ⟨s, hs, rfl⟩ := map_eq_ok hd
    exact .pushPic hs
  | popNum dest =>
    refine of_proceed h fun d hd => ?_
    obtain ⟨⟨x, s⟩, hs, rfl⟩ := map_eq_ok hd
    exact .popNum hs
  | popPic dest =>
    refine of_proceed h fun d hd => ?_
    obtain ⟨⟨photo, s⟩, hs, rfl⟩ := map_eq_ok hd
    exact .popPic hs
  | arithmetic op lhs rhs dest =>
    refine of_proceed h fun d hd => ?_
    obtain ⟨x, hx, rfl⟩ := map_eq_ok hd
    exact .arithmetic hx
  | takeoff =>
    have hd : (c.execute files looks p v e .takeoff).core = c.follow .takeoff := core_of_order h
    rw [hd]
    exact .takeoff
  | land =>
    have hd : (c.execute files looks p v e .land).core = c.follow .land := core_of_order h
    rw [hd]
    exact .land
  | move motion operand =>
    have hd : (c.execute files looks p v e (.move motion operand)).core =
        c.travel motion (c.value operand).truncate := core_of_order h
    rw [hd]
    exact .move motion operand
  | display what =>
    simp only [execute] at h ⊢
    cases hs : c.shown what with
    | error x => rw [hs] at h; cases h
    | ok told => exact .display hs
  | takePic dest =>
    simp only [execute] at h ⊢
    split at h
    · exact .takePic dest _
    · cases h
  | loadPic file dest =>
    refine of_proceed h fun d hd => ?_
    obtain ⟨picture, -, rfl⟩ := map_eq_ok hd
    exact .loadPic file dest picture
  | detectFace picture face dest =>
    simp only [execute] at h ⊢
    split at h
    · cases h
    · next photo hp =>
      unfold detect
      split
      · exact .unseen hp
      · exact .seen _ _ hp
  | matchFace first second dest =>
    simp only [execute, likeness] at h ⊢
    split at h
    · next ha hb => exact .matchFace _ (by rw [ha]; rfl) (by rw [hb]; rfl)
    · cases h

end Core
end Quadcopter
