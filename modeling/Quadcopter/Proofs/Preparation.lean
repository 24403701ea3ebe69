import Mathlib.Data.List.TakeWhile
import Quadcopter.Line
import Quadcopter.Proofs.Casing

/-!
# Quadcopter.Proofs.Preparation

What making a line ready does to its text.

* `plain_of_mem_normalize`: what is left are characters that are in upper case and open no comment.
* `normalize_of_plain`: a text of such characters, without blanks at its ends, stays as it is.
* `normalize_of_isBlank`: of a line that is blank up to its comment nothing is left.
-/

namespace Quadcopter

namespace Text

/-- Neither at the start nor at the end of a text there is a blank. -/
def Trimmed (s : List Char) : Prop :=
  (∀ c ∈ s.head?, isBlank c = false) ∧ ∀ c ∈ s.getLast?, isBlank c = false

theorem Trimmed.append {w s : List Char} (hw : Trimmed w) (hs : Trimmed s) (hne : w ≠ [])
    (hne' : s ≠ []) (gap : List Char) : Trimmed (w ++ gap ++ s) := by
  constructor
  · cases w with
    | nil => exact absurd rfl hne
    | cons a w => exact hw.1
  · have hlast : (w ++ gap ++ s).getLast? = s.getLast? := by
      rw [List.getLast?_append, List.getLast?_eq_some_getLast hne']
      rfl
    rw [hlast]
    exact hs.2

theorem trimStart_of_head {s : List Char} (h : ∀ c ∈ s.head?, isBlank c = false) : trimStart s = s := by
  cases s with
  | nil => rfl
  | cons c s => rw [trimStart, List.dropWhile_cons_of_neg (by simp [h c rfl])]

theorem trim_of_trimmed {s : List Char} (h : Trimmed s) : trim s = s := by
  rw [trim, trimStart_of_head h.1]
  -- the end of a text is the start of its reverse
  have hrev : trimStart s.reverse = s.reverse := trimStart_of_head (by simpa using h.2)
  rw [trimStart] at hrev
  rw [trimEnd, hrev, List.reverse_reverse]

theorem trim_of_isBlank {s : List Char} (h : ∀ c ∈ s, isBlank c = true) : trim s = [] := by
  have hstart : trimStart s = [] := List.dropWhile_eq_nil_iff.2 h
  rw [trim, hstart]; rfl

/-- Trimming leaves what stands between white space. -/
theorem trim_between {before body after : List Char} (hbefore : ∀ c ∈ before, isBlank c = true)
    (hbody : Trimmed body) (hafter : ∀ c ∈ after, isBlank c = true) :
    trim (before ++ body ++ after) = body := by
  have hstart : trim (before ++ body ++ after) = trim (body ++ after) := by
    rw [trim, trim, trimStart, trimStart, List.append_assoc, List.dropWhile_append_of_pos hbefore]
  rw [hstart]
  cases body with
  | nil => exact trim_of_isBlank hafter
  | cons c body =>
    have hhead : trimStart (c :: body ++ after) = c :: body ++ after := trimStart_of_head hbody.1
    have hsame : trimStart (c :: body) = c :: body := trimStart_of_head hbody.1
    rw [trim, hhead, trimEnd_of_isBlank hafter, ← hsame, ← trim, trim_of_trimmed hbody, hsame]

theorem mem_of_mem_trim {s : List Char} {c : Char} (h : c ∈ trim s) : c ∈ s := by
  have hstart : c ∈ trimStart s := by
    have := (List.dropWhile_sublist isBlank).subset (List.mem_reverse.1 h)
    simpa using this
  exact (List.dropWhile_sublist isBlank).subset hstart

end Text

namespace Line

open Text

/-- A character that making a line ready leaves alone. -/
def Plain (c : Char) : Prop := upperChar c = [c] ∧ c ≠ '#'

instance (c : Char) : Decidable (Plain c) := inferInstanceAs (Decidable (_ ∧ _))

theorem uncommented_append {s comment : List Char} (h : '#' ∉ s)
    (hc : comment = [] ∨ ∃ text, comment = '#' :: text) : uncommented (s ++ comment) = s := by
  have hs : ∀ c ∈ s, (c != '#') = true := by
    intro c hm
    rw [bne_iff_ne]
    rintro rfl
    exact h hm
  rw [uncommented, List.takeWhile_append_of_pos hs]
  rcases hc with rfl | ⟨text, rfl⟩
  · rw [List.takeWhile_nil, List.append_nil]
  · rw [List.takeWhile_cons_of_neg (by decide), List.append_nil]

theorem uncommented_of_notMem {s : List Char} (h : '#' ∉ s) : uncommented s = s := by
  simpa using uncommented_append h (.inl rfl)

theorem normalize_of_plain {s : List Char} (hp : ∀ c ∈ s, Plain c) (ht : Trimmed s) :
    normalize s = s := by
  have hcomment : '#' ∉ s := fun hm => (hp _ hm).2 rfl
  rw [normalize, uncommented_of_notMem hcomment, upper_of_fixed fun c hc => (hp c hc).1,
    trim_of_trimmed ht]

theorem plain_of_mem_normalize {s : List Char} {c : Char} (h : c ∈ normalize s) : Plain c := by
  have hu : c ∈ upper (uncommented s) := mem_of_mem_trim h
  refine ⟨upperChar_of_mem_upper hu, ?_⟩
  rintro rfl
  have hm : '#' ∈ uncommented s := mem_of_mem_upper hu (by decide)
  have := List.mem_takeWhile_imp hm
  simp at this

/-- Whether a line holds nothing but white space and perhaps a comment. -/
def IsBlank (s : String) : Prop := ∀ c ∈ uncommented s.toList, isBlank c = true

instance (s : String) : Decidable (IsBlank s) :=
  decidable_of_iff ((uncommented s.toList).all isBlank = true) List.all_eq_true

theorem normalize_of_isBlank {s : String} (h : IsBlank s) : normalize s.toList = [] := by
  rw [normalize, upper_of_isBlank h, trim_of_isBlank h]

end Line
end Quadcopter
