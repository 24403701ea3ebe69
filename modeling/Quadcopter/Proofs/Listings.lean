import Quadcopter.Host.Source
import Quadcopter.Proofs.Preparation

/-!
# Quadcopter.Proofs.Listings

The lines of a listing. A listing keeps a line without the blanks at its end, which changes neither how it
reads nor whether it is accepted.

* `parse_kept`: a line reads as the line that is kept.
* `Accepted`: a line as a listing keeps it; `Listing.Sound`: a listing of such lines. Adding a line and
  loading a file keep this, and a sound listing compiles (`Listing.Sound.compile`).
* `pushBytes_lines`: a file with the lines of a sound listing is that listing.
-/

namespace Quadcopter

namespace Text

theorem trimEnd_trimEnd (s : List Char) : trimEnd (trimEnd s) = trimEnd s := by
  obtain ⟨blanks, hs, hb⟩ := trimEnd_append s
  calc
    trimEnd (trimEnd s) = trimEnd (trimEnd s ++ blanks) :=
      (trimEnd_of_isBlank (List.all_eq_true.1 hb) _).symm
    _ = trimEnd s := by rw [← hs]

theorem trim_append_of_isBlank {blanks : List Char} (h : ∀ c ∈ blanks, isBlank c = true) (s : List Char) :
    trim (s ++ blanks) = trim s := by
  rw [trim, trim, trimStart, trimStart, List.dropWhile_append]
  split
  · next hs =>
    rw [List.isEmpty_iff.1 hs, List.dropWhile_eq_nil_iff.2 h]
  · exact trimEnd_of_isBlank h _

end Text

namespace Line

open Text

theorem normalize_trimEnd (s : List Char) : normalize (trimEnd s) = normalize s := by
  obtain ⟨blanks, hs, hb⟩ := trimEnd_append s
  have hblank : ∀ c ∈ blanks, isBlank c = true := List.all_eq_true.1 hb
  generalize trimEnd s = t at hs
  subst hs
  by_cases hc : '#' ∈ t
  · -- the comment has begun before the blanks
    obtain ⟨a, b, rfl, ha⟩ := List.eq_append_cons_of_mem hc
    have hcut : ∀ rest, uncommented (a ++ '#' :: rest) = a :=
      fun rest => uncommented_append ha (.inr ⟨rest, rfl⟩)
    rw [normalize, normalize, hcut, List.append_assoc, List.cons_append, hcut]
  · have hnone : '#' ∉ t ++ blanks := by
      intro hm
      rcases List.mem_append.1 hm with hm | hm
      · exact hc hm
      · exact absurd (hblank _ hm) (by decide)
    have hupper : upper (t ++ blanks) = upper t ++ blanks := by
      rw [upper, List.flatMap_append, ← upper, ← upper, upper_of_isBlank hblank]
    rw [normalize, normalize, uncommented_of_notMem hc, uncommented_of_notMem hnone, hupper,
      trim_append_of_isBlank hblank]

end Line

namespace Listing

theorem parse_kept (s : String) : Line.parse (kept s) = Line.parse s := by
  simp only [Line.parse, kept, String.toList_ofList, Line.normalize_trimEnd]

theorem kept_kept (s : String) : kept (kept s) = kept s := by
  simp only [kept, String.toList_ofList, Text.trimEnd_trimEnd]

theorem utf8ByteSize_kept_le (s : String) : (kept s).utf8ByteSize ≤ s.utf8ByteSize := by
  obtain ⟨blanks, hs, -⟩ := Text.trimEnd_append s.toList
  have hstring : s = kept s ++ String.ofList blanks := by
    rw [kept, ← String.ofList_append, ← hs, String.ofList_toList]
  calc
    (kept s).utf8ByteSize ≤ (kept s).utf8ByteSize + (String.ofList blanks).utf8ByteSize :=
      Nat.le_add_right ..
    _ = s.utf8ByteSize := by rw [← String.utf8ByteSize_append, ← hstring]

/-- A line as a listing keeps it: without blanks at its end, short enough, and readable. -/
structure Accepted (s : String) : Prop where
  trimmed : kept s = s
  short : s.utf8ByteSize ≤ maxLineBytes
  readable : ∃ ts, Line.parse s = .ok ts

/-- All lines are as a listing keeps them. -/
def Sound (l : Listing) : Prop := ∀ s ∈ l.lines.toList, Accepted s

theorem Sound.empty : Sound empty := nofun

variable {l m : Listing} {s : String}

theorem push_eq_ok_iff : l.push s = (.ok (), m) ↔
    s.utf8ByteSize ≤ maxLineBytes ∧ (∃ ts, Line.parse s = .ok ts) ∧ m = ⟨l.lines.push (kept s)⟩ := by
  rw [push, ← Nat.not_lt]
  split
  · next hlong => simp [hlong]
  · next hshort =>
    cases hparse : Line.parse s with
    | error e => simp [Line.read, hparse]
    | ok ts => simp [Line.read, hparse, hshort, eq_comm]

theorem push_of_accepted (l : Listing) (h : Accepted s) : l.push s = (.ok (), ⟨l.lines.push s⟩) :=
  push_eq_ok_iff.2 ⟨h.short, h.readable, by rw [h.trimmed]⟩

theorem Sound.push {result : Except Fault Unit} (h : l.Sound) (hs : l.push s = (result, m)) : m.Sound := by
  cases result with
  | error f => rwa [eq_of_push_error hs]
  | ok =>
    obtain ⟨hshort, ⟨ts, hparse⟩, rfl⟩ := push_eq_ok_iff.1 hs
    intro line hline
    rw [Array.toList_push, List.mem_append, List.mem_singleton] at hline
    rcases hline with hline | rfl
    · exact h line hline
    · exact ⟨kept_kept s, (utf8ByteSize_kept_le s).trans hshort, ts, (parse_kept s).trans hparse⟩

theorem compileFrom_of_accepted {lines : List String} (h : ∀ s ∈ lines, Accepted s) (p : Program)
    (done : Nat) : ∃ q, compileFrom p done lines = .ok q := by
  induction lines generalizing p done with
  | nil => exact ⟨p, rfl⟩
  | cons s rest ih =>
    obtain ⟨ts, hts⟩ := (h s List.mem_cons_self).readable
    obtain ⟨q, hq⟩ := ih (fun s' hs' => h s' (List.mem_cons_of_mem s hs')) (p.add ts) (done + 1)
    refine ⟨q, ?_⟩
    rw [compileFrom, Line.read, hts]
    exact hq

theorem Sound.compile (h : l.Sound) : ∃ p, l.compile = .ok p := compileFrom_of_accepted h .empty 0

end Listing

namespace Host

/-- The bytes of a line. -/
def bytesOf (line : String) : List UInt8 := line.toUTF8.data.toList

theorem fromUTF8?_bytesOf (line : String) : String.fromUTF8? ⟨(bytesOf line).toArray⟩ = some line := by
  have hvalid : line.toUTF8.IsValidUTF8 := line.isValidUTF8
  have hbytes : (⟨(bytesOf line).toArray⟩ : ByteArray) = line.toUTF8 := by simp [bytesOf]
  rw [hbytes, String.fromUTF8?, dif_pos hvalid]
  rfl

theorem pushBytes_lines (l : Listing) {lines : List String} (h : ∀ s ∈ lines, Listing.Accepted s) :
    pushBytes l (lines.map bytesOf) = .ok ⟨l.lines ++ lines.toArray⟩ := by
  induction lines generalizing l with
  | nil => simp [pushBytes]
  | cons s rest ih =>
    have hs := Listing.push_of_accepted l (h s List.mem_cons_self)
    rw [List.map_cons, pushBytes, fromUTF8?_bytesOf]
    dsimp only
    rw [hs]
    dsimp only
    rw [ih _ fun s' hs' => h s' (List.mem_cons_of_mem s hs')]
    simp

theorem sound_of_pushBytes {l m : Listing} {bytes : List (List UInt8)} (h : l.Sound)
    (hm : pushBytes l bytes = .ok m) : m.Sound := by
  induction bytes generalizing l with
  | nil => cases hm; exact h
  | cons b rest ih =>
    rw [pushBytes] at hm
    split at hm
    · cases hm
    · split at hm
      · cases hm
      · next hpush => exact ih (h.push hpush) hm

theorem sound_of_loadListing {files : Files} {path : String} {l : Listing}
    (h : loadListing files path = .ok l) : l.Sound := by
  unfold loadListing at h
  split at h
  · cases h
  · split at h
    · cases h
    · exact sound_of_pushBytes .empty h

/-- A file with the lines of a sound listing is that listing. -/
theorem loadListing_of_lines {files : Files} {path : String} {data : ByteArray} {l : Listing}
    (hl : l.Sound) (hopen : files.openAt path = .ok (.file data))
    (hdata : byteLines data = l.lines.toList.map bytesOf) : loadListing files path = .ok l := by
  rw [loadListing, hopen]
  simp only [Files.contents, hdata]
  rw [pushBytes_lines .empty hl]
  simp [Listing.empty]

end Host
end Quadcopter
