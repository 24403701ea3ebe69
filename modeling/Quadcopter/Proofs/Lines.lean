import Quadcopter.Text.Split

/-!
# Quadcopter.Proofs.Lines

Texts put together from lines, each ended by a newline, and the lines that they have then.

* `linesOf_ended`: each line is cut at the newlines it holds itself.
* `linesOf_ended_eq`: lines without newlines come back as they were, if none ends in the mark that is
  dropped before a newline.
* `notMem_of_length_linesOf`: only then are there as many lines as before.
* `notMem_of_mem_linesOf`: no line of any text holds a newline.
-/

namespace Quadcopter
namespace Text

variable {α : Type} [BEq α] [LawfulBEq α]

/-- Lines written one after the other. -/
def ended (newline : α) (ls : List (List α)) : List α := ls.flatMap (· ++ [newline])

omit [LawfulBEq α] in
theorem splitAt_eq_cons (sep : α) (s : List α) : ∃ piece more, splitAt sep s = piece :: more := by
  cases s with
  | nil => exact ⟨[], [], rfl⟩
  | cons c s =>
    rw [splitAt, List.foldr_cons]
    split
    · exact ⟨_, _, rfl⟩
    · split
      · exact ⟨_, _, rfl⟩
      · exact ⟨_, _, rfl⟩

theorem splitAt_sep (sep : α) (s : List α) : splitAt sep (sep :: s) = [] :: splitAt sep s := by
  rw [splitAt, List.foldr_cons, if_pos BEq.rfl]; rfl

theorem splitAt_cons {sep c : α} {s piece : List α} {more : List (List α)} (hc : c ≠ sep)
    (h : splitAt sep s = piece :: more) : splitAt sep (c :: s) = (c :: piece) :: more := by
  unfold splitAt at h
  rw [splitAt, List.foldr_cons, h, if_neg (by simpa using hc)]

theorem splitAt_append_sep (sep : α) (r s : List α) :
    splitAt sep (r ++ sep :: s) = splitAt sep r ++ splitAt sep s := by
  induction r with
  | nil => exact splitAt_sep sep s
  | cons c r ih =>
    rw [List.cons_append]
    by_cases hc : c = sep
    · subst hc; rw [splitAt_sep, splitAt_sep, ih, List.cons_append]
    · obtain ⟨piece, more, hr⟩ := splitAt_eq_cons sep r
      rw [hr, List.cons_append] at ih
      rw [splitAt_cons hc hr, splitAt_cons hc ih, List.cons_append]

theorem splitAt_of_notMem {sep : α} {r : List α} (h : sep ∉ r) : splitAt sep r = [r] := by
  induction r with
  | nil => rfl
  | cons c r ih =>
    have hc : c ≠ sep := by rintro rfl; exact h List.mem_cons_self
    have hr : sep ∉ r := fun hm => h (List.mem_cons_of_mem c hm)
    exact splitAt_cons hc (ih hr)

theorem length_splitAt (sep : α) (s : List α) : (splitAt sep s).length = s.count sep + 1 := by
  induction s with
  | nil => rfl
  | cons c s ih =>
    by_cases hc : c = sep
    · subst hc; simp [splitAt_sep, ih]
    · obtain ⟨piece, more, hs⟩ := splitAt_eq_cons sep s
      rw [splitAt_cons hc hs]
      rw [hs] at ih
      simpa [hc] using ih

theorem splitAt_ended (newline : α) (ls : List (List α)) :
    splitAt newline (ended newline ls) = ls.flatMap (splitAt newline) ++ [[]] := by
  induction ls with
  | nil => rfl
  | cons l ls ih =>
    rw [ended, List.flatMap_cons, List.append_assoc, List.singleton_append, splitAt_append_sep,
      List.flatMap_cons, List.append_assoc]
    exact congrArg (splitAt newline l ++ ·) ih

theorem linesOf_ended (newline ret : α) (ls : List (List α)) :
    linesOf newline ret (ended newline ls) = (ls.flatMap (splitAt newline)).map (dropMark ret) := by
  simp [linesOf, splitAt_ended]

theorem notMem_of_mem_splitAt {sep : α} {s piece : List α} (h : piece ∈ splitAt sep s) : sep ∉ piece := by
  induction s generalizing piece with
  | nil =>
    rw [List.mem_singleton.1 h]
    exact List.not_mem_nil
  | cons c s ih =>
    by_cases hc : c = sep
    · subst hc
      rw [splitAt_sep] at h
      rcases List.mem_cons.1 h with rfl | h
      · exact List.not_mem_nil
      · exact ih h
    · obtain ⟨first, more, hs⟩ := splitAt_eq_cons sep s
      rw [splitAt_cons hc hs] at h
      rw [hs] at ih
      rcases List.mem_cons.1 h with rfl | h
      · have hfirst : sep ∉ first := ih List.mem_cons_self
        simp [Ne.symm hc, hfirst]
      · exact ih (List.mem_cons_of_mem first h)

theorem notMem_of_mem_linesOf {newline ret : α} {s line : List α} (h : line ∈ linesOf newline ret s) :
    newline ∉ line := by
  rcases List.mem_append.1 h with h | h
  · obtain ⟨piece, hpiece, rfl⟩ := List.mem_map.1 h
    have hnot : newline ∉ piece := notMem_of_mem_splitAt (List.dropLast_subset _ hpiece)
    rw [dropMark]
    split
    · exact fun hm => hnot (List.dropLast_subset _ hm)
    · exact hnot
  · -- the line behind the last newline
    split at h
    · cases h
    · next htail =>
      rw [List.mem_singleton.1 h]
      cases hlast : (splitAt newline s).getLast? with
      | none => exact List.not_mem_nil
      | some tail => exact notMem_of_mem_splitAt (List.mem_of_getLast? hlast)

theorem dropMark_of_getLast {mark : α} {l : List α} (h : l.getLast? ≠ some mark) :
    dropMark mark l = l := by
  rw [dropMark, if_neg]
  simpa using h

theorem linesOf_ended_eq {newline ret : α} {ls : List (List α)} (hn : ∀ l ∈ ls, newline ∉ l)
    (hr : ∀ l ∈ ls, l.getLast? ≠ some ret) : linesOf newline ret (ended newline ls) = ls := by
  induction ls with
  | nil => rw [linesOf_ended]; rfl
  | cons l ls ih =>
    have hls := ih (fun m hm => hn m (List.mem_cons_of_mem l hm))
      (fun m hm => hr m (List.mem_cons_of_mem l hm))
    rw [linesOf_ended] at hls ⊢
    rw [List.flatMap_cons, splitAt_of_notMem (hn l List.mem_cons_self), List.singleton_append,
      List.map_cons, hls, dropMark_of_getLast (hr l List.mem_cons_self)]

theorem length_linesOf_ended (newline ret : α) (ls : List (List α)) :
    (linesOf newline ret (ended newline ls)).length = ls.length + ls.flatten.count newline := by
  rw [linesOf_ended, List.length_map]
  induction ls with
  | nil => rfl
  | cons l ls ih =>
    simp only [List.flatMap_cons, List.length_append, ih, length_splitAt, List.flatten_cons,
      List.count_append, List.length_cons]
    omega

theorem notMem_of_length_linesOf {newline ret : α} {ls : List (List α)}
    (h : (linesOf newline ret (ended newline ls)).length = ls.length) : ∀ l ∈ ls, newline ∉ l := by
  rw [length_linesOf_ended] at h
  have hcount : ls.flatten.count newline = 0 := by omega
  intro l hl hmem
  exact List.count_eq_zero.1 hcount (List.mem_flatten.2 ⟨l, hl, hmem⟩)

end Text
end Quadcopter
