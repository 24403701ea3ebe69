import Quadcopter.Proofs.Compilation
import Quadcopter.Proofs.Hosts
import Quadcopter.Proofs.Lines
import Quadcopter.Proofs.Places

/-!
# Quadcopter.Proofs.Storage

Listings written to files and read back. Writing ends each line with a newline; reading cuts at newlines,
drops a carriage return before each, and checks every line again.

* `byteLines_listingText`: the lines of a written listing are its lines.
* `loadListing_of_place`: a listing is read back, in whatever the tree of files has grown into, as long as
  the file stands where it was written.
* `loadListing_ok_iff`: when a file is read at all.
* `grows_handle`: what a line that is typed can do to the files.
* `listing_restored`: a session gets back the listing that it has saved.
-/

namespace Quadcopter
namespace Host

/-! ## Bytes -/

theorem bytesOf_eq (s : String) : bytesOf s = s.toList.flatMap String.utf8EncodeChar := by
  obtain ⟨cs, rfl⟩ : ∃ cs, s = String.ofList cs := ⟨s.toList, String.ofList_toList.symm⟩
  simp [bytesOf, List.utf8Encode]

theorem bytesOf_append (s t : String) : bytesOf (s ++ t) = bytesOf s ++ bytesOf t := by
  simp [bytesOf_eq]

theorem bytesOf_of_fromUTF8? {bytes : List UInt8} {s : String}
    (h : String.fromUTF8? ⟨bytes.toArray⟩ = some s) : bytesOf s = bytes := by
  unfold String.fromUTF8? at h
  split at h
  · cases h; rfl
  · cases h

/-- A byte below 128 is a character of its own and no part of another. -/
theorem mem_utf8EncodeChar {c d : Char} (hd : d.toNat < 128) :
    d.toUInt8 ∈ String.utf8EncodeChar c ↔ c = d := by
  have hv : c.val.toNat = c.toNat := rfl
  have hbyte : d.toUInt8.toNat = d.toNat := Nat.mod_eq_of_lt (Nat.lt_trans hd (by decide))
  rw [← Char.toNat_inj]
  unfold String.utf8EncodeChar
  simp only [hv]
  repeat' split
  all_goals
    simp only [List.mem_cons, List.not_mem_nil, or_false, ← UInt8.toNat_inj, UInt8.toNat_ofNat', hbyte]
    omega

theorem mem_bytesOf {s : String} {d : Char} (hd : d.toNat < 128) :
    d.toUInt8 ∈ bytesOf s ↔ d ∈ s.toList := by
  simp [bytesOf_eq, List.mem_flatMap, mem_utf8EncodeChar hd]

theorem getLast?_of_bytesOf {s : String} {d : Char} (hd : d.toNat < 128)
    (h : (bytesOf s).getLast? = some d.toUInt8) : s.toList.getLast? = some d := by
  rw [bytesOf_eq] at h
  rcases List.eq_nil_or_concat' s.toList with hs | ⟨init, c, hs⟩
  · rw [hs] at h; cases h
  · rw [hs, List.flatMap_append, List.flatMap_singleton,
      List.getLast?_append_of_ne_nil _ String.utf8EncodeChar_ne_nil] at h
    have hc : c = d := (mem_utf8EncodeChar hd).1 (List.mem_of_getLast? h)
    rw [hs, List.getLast?_concat, hc]

theorem newline_mem_bytesOf {s : String} : 10 ∈ bytesOf s ↔ '\n' ∈ s.toList :=
  mem_bytesOf (d := '\n') (by decide)

theorem bytesOf_foldl (lines : List String) (s : String) :
    bytesOf (lines.foldl (fun s line => s ++ line ++ "\n") s) =
      bytesOf s ++ Text.ended 10 (lines.map bytesOf) := by
  have hnewline : bytesOf "\n" = [10] := by decide +kernel
  induction lines generalizing s with
  | nil => simp [Text.ended]
  | cons line rest ih =>
    rw [List.foldl_cons, ih]
    simp [bytesOf_append, hnewline, Text.ended]

theorem bytesOf_listingText (l : Listing) :
    bytesOf (listingText l) = Text.ended 10 (l.lines.toList.map bytesOf) := by
  rw [listingText, ← Array.foldl_toList, bytesOf_foldl]
  rfl

end Host

/-! ## Listings that can be stored -/

namespace Listing

variable {l m : Listing} {s : String}

/-- What was kept does not end in a carriage return, which is a blank. -/
theorem Accepted.getLast?_ne (h : Accepted s) : s.toList.getLast? ≠ some '\r' := by
  intro hlast
  obtain ⟨init, hinit⟩ : ∃ init, s.toList = init ++ ['\r'] := List.getLast?_eq_some_iff.1 hlast
  have hblank : ∀ c ∈ ['\r'], Text.isBlank c = true := by
    intro c hc
    rw [List.mem_singleton.1 hc]
    decide
  have htrim : Text.trimEnd init = s.toList := by
    calc
      Text.trimEnd init = Text.trimEnd s.toList := by rw [hinit, Text.trimEnd_of_isBlank hblank]
      _ = (kept s).toList := by rw [kept, String.toList_ofList]
      _ = s.toList := by rw [h.trimmed]
  obtain ⟨blanks, hcut, -⟩ := Text.trimEnd_append init
  have hlonger := congrArg List.length hcut
  rw [htrim, hinit, List.length_append, List.length_append, List.length_singleton] at hlonger
  omega

/-- Each line was accepted, and none holds a newline. -/
structure Storable (l : Listing) : Prop where
  sound : l.Sound
  unbroken : ∀ s ∈ l.lines.toList, '\n' ∉ s.toList

namespace Storable

theorem empty : Storable empty := ⟨.empty, nofun⟩

theorem push {result : Except Fault Unit} (h : l.Storable) (hs : '\n' ∉ s.toList)
    (hm : l.push s = (result, m)) : m.Storable := by
  refine ⟨h.sound.push hm, ?_⟩
  cases result with
  | error f =>
    rw [eq_of_push_error hm]
    exact h.unbroken
  | ok =>
    obtain ⟨-, -, rfl⟩ := push_eq_ok_iff.1 hm
    intro line hline
    rw [Array.toList_push, List.mem_append, List.mem_singleton] at hline
    rcases hline with hline | rfl
    · exact h.unbroken line hline
    · obtain ⟨blanks, hcut, -⟩ := Text.trimEnd_append s.toList
      intro hmem
      rw [kept, String.toList_ofList] at hmem
      exact hs (hcut ▸ List.mem_append_left blanks hmem)

theorem pushAll {lines : List String} (h : l.Storable) (hlines : ∀ s ∈ lines, '\n' ∉ s.toList)
    (hm : l.pushAll lines = .ok m) : m.Storable := by
  induction lines generalizing l with
  | nil => cases hm; exact h
  | cons s rest ih =>
    obtain ⟨hs, hrest⟩ := List.forall_mem_cons.1 hlines
    rw [Listing.pushAll] at hm
    split at hm
    · cases hm
    · next hpush => exact ih (h.push hs hpush) hrest hm

end Storable
end Listing

namespace Host

variable {l : Listing} {files : Files} {path : String}

theorem byteLines_listingText (h : l.Storable) :
    byteLines (listingText l).toUTF8 = l.lines.toList.map bytesOf := by
  rw [byteLines, ← bytesOf, bytesOf_listingText]
  refine Text.linesOf_ended_eq ?_ ?_
  · intro bytes hbytes
    obtain ⟨s, hs, rfl⟩ := List.mem_map.1 hbytes
    exact fun hmem => h.unbroken s hs (newline_mem_bytesOf.1 hmem)
  · intro bytes hbytes hlast
    obtain ⟨s, hs, rfl⟩ := List.mem_map.1 hbytes
    exact (h.sound s hs).getLast?_ne (getLast?_of_bytesOf (d := '\r') (by decide) hlast)

/-- A listing that was written at the place of a path is read back from the path, whatever else has been
added to the files. -/
theorem loadListing_of_place {before : Files} {place : List String} {written : List String → Prop}
    (h : l.Storable) (ht : before.target path = .ok place) (hgrows : before.Grows written files)
    (hnode : files.node? place = some (.file (listingText l).toUTF8)) : loadListing files path = .ok l :=
  loadListing_of_lines h.sound (Files.openAt_of_target ht hgrows hnode) (byteLines_listingText h)

theorem saveListing_of_target {place : List String} (hne : l.isEmpty = false)
    (ht : files.target path = .ok place) :
    saveListing files l path = .ok (files.put place (.file (listingText l).toUTF8)) := by
  simp [saveListing, hne, Files.write_eq, ht, Except.map]

theorem grows_of_saveListing {saved : Files} (h : saveListing files l path = .ok saved) :
    files.Grows (files.target path = .ok ·) saved := by
  unfold saveListing at h
  split at h
  · cases h
  · split at h
    · cases h
    · next hw =>
      cases h
      exact Files.grows_of_write hw

/-! ## Files that cannot be read -/

/-- The bytes are those of a line that a listing takes. -/
def Legible (bytes : List UInt8) : Prop :=
  ∃ s, String.fromUTF8? ⟨bytes.toArray⟩ = some s ∧ s.utf8ByteSize ≤ maxLineBytes ∧
    ∃ ts, Line.parse s = .ok ts

theorem pushBytes_ok_iff (l : Listing) (lines : List (List UInt8)) :
    (∃ m, pushBytes l lines = .ok m) ↔ ∀ bytes ∈ lines, Legible bytes := by
  induction lines generalizing l with
  | nil => simp [pushBytes]
  | cons bytes rest ih =>
    rw [List.forall_mem_cons, pushBytes]
    split
    · next hnone => simp [Legible, hnone]
    · next s hs =>
      split
      · next hrefused =>
        have hnot : ¬ Legible bytes := by
          rintro ⟨s', hs', hshort, hparse⟩
          cases hs.symm.trans hs'
          have hpush := Listing.push_eq_ok_iff (l := l).2 ⟨hshort, hparse, rfl⟩
          rw [hpush] at hrefused
          cases hrefused
        simp [hnot]
      · next m hm =>
        obtain ⟨hshort, hparse, -⟩ := Listing.push_eq_ok_iff.1 hm
        have hlegible : Legible bytes := ⟨s, hs, hshort, hparse⟩
        simp [hlegible, ih]

theorem loadListing_ok_iff : (∃ l, loadListing files path = .ok l) ↔
    ∃ data, files.openAt path = .ok (.file data) ∧ ∀ bytes ∈ byteLines data, Legible bytes := by
  rw [loadListing]
  rcases hopen : files.openAt path with why | (_ | data)
  · simp
  · simp [Files.contents]
  · simp [Files.contents, pushBytes_ok_iff]

/-- A file is cut at its newlines, so a listing that was read has none. -/
theorem storable_of_pushBytes {m : Listing} {lines : List (List UInt8)} (h : l.Storable)
    (hlines : ∀ bytes ∈ lines, 10 ∉ bytes) (hm : pushBytes l lines = .ok m) : m.Storable := by
  induction lines generalizing l with
  | nil => cases hm; exact h
  | cons bytes rest ih =>
    obtain ⟨hbytes, hrest⟩ := List.forall_mem_cons.1 hlines
    rw [pushBytes] at hm
    split at hm
    · cases hm
    · next s hs =>
      split at hm
      · cases hm
      · next hpush =>
        have hs' : '\n' ∉ s.toList := by
          rw [← newline_mem_bytesOf, bytesOf_of_fromUTF8? hs]
          exact hbytes
        exact ih (h.push hs' hpush) hrest hm

theorem storable_of_loadListing (h : loadListing files path = .ok l) : l.Storable := by
  unfold loadListing at h
  split at h
  · cases h
  · split at h
    · cases h
    · exact storable_of_pushBytes .empty (fun bytes hb => Text.notMem_of_mem_linesOf hb) h

/-! ## What a run writes -/

/-- A place that the path of a displayed picture can lead to. -/
def PicturePlace (options : Options) (here place : List String) : Prop :=
  ∃ dir index, ∃ (p : Picture) (files : Files), options.showDir = some dir ∧ files.here = here ∧
    files.target (Files.join dir (pictureName index p)) = .ok place

section Runs

variable {options : Options} {here : List String}

theorem grows_writePicture {dir : String} (hdir : options.showDir = some dir) (hhere : files.here = here)
    (index : Nat) (p : Picture) :
    files.Grows (PicturePlace options here) (writePicture files dir index p).2 := by
  have hmade : files.Grows (PicturePlace options here) (files.makeDirectory dir).2 :=
    Files.grows_makeDirectory files dir
  unfold writePicture
  split
  · next hm => rwa [hm] at hmade
  · next made hm =>
    rw [hm] at hmade
    have hsaved := p.grows_save made (Files.join dir (pictureName index p))
    have hgrows := hmade.trans (hsaved.mono fun place hplace =>
      ⟨dir, index, p, made, hdir, hmade.here.trans hhere, hplace⟩)
    dsimp only
    split <;> next hs => rwa [hs] at hgrows

theorem grows_hear (options : Options) (s : Stage) (hhere : s.files.here = here) (event : Event) :
    s.files.Grows (PicturePlace options here) (s.hear options event).files := by
  cases event with
  | «show» photo =>
    rw [Stage.hear, Stage.picture]
    cases hdir : options.showDir with
    | none => exact .refl _ s.files
    | some dir =>
      have hw := grows_writePicture hdir hhere (s.shown + 1) photo.picture
      dsimp only [Stage.emit]
      split <;> exact hw
  | _ => exact .refl _ s.files

variable {V E : Type} [Vehicle V] [Vision E]

theorem grows_perform (n : Nat) (m : Machine V E) (s : Stage) (hhere : s.files.here = here) :
    s.files.Grows (PicturePlace options here) (perform options n m s).2.2.files := by
  induction n generalizing m s with
  | zero => exact .refl _ s.files
  | succ n ih =>
    obtain ⟨event, m', he⟩ : ∃ event m', m.execute s.files batch = (event, m') := ⟨_, _, rfl⟩
    have hheard := grows_hear options s hhere event
    by_cases hends : Ends event
    · rcases hends with rfl | ⟨fault, rfl⟩
      · rw [perform_stopped n he]
        exact .refl _ s.files
      · rw [perform_error n he]
        exact hheard
    · rw [perform_on n he hends]
      exact hheard.trans (ih m' _ (hheard.here.trans hhere))

theorem grows_present (n : Nat) (files : Files) (b : Logbook V E) (program : Program) (v : V) :
    files.Grows (PicturePlace options files.here) (present options n files b program v).files := by
  unfold present
  obtain ⟨result, b', hb⟩ : ∃ result b', b.start program v = (result, b') := ⟨_, _, rfl⟩
  rw [hb]
  cases result with
  | error fault => exact .refl _ files
  | ok u => exact grows_perform n b'.machine ⟨files, #[], 0⟩ rfl

end Runs

/-! ## What a line does -/

/-- The command that a line gives, with what follows the word. -/
def meant? (line : String) : Option (Verb × String) :=
  match Text.trim line.toList with
  | '.' :: body =>
    let (word, argument) := Text.splitWhile (fun c => !Text.isBlank c) (Text.trim body)
    (Verb.ofWord? word).map (·, String.ofList (Text.trim argument))
  | _ => none

namespace Session

variable {s : Session} {line : String}

/-- A line is a command that is obeyed, or a line for the listing, or nothing happens. -/
theorem handle_cases (s : Session) (batches : Nat) (line : String) :
    (∃ verb argument, meant? line = some (verb, argument) ∧
      s.handle batches line = { s.obey batches argument verb with history := [line] }) ∨
    meant? line = none ∧
      ((s.handle batches line).session = s ∨ s.handle batches line = s.enter line) := by
  unfold handle meant?
  generalize Text.trim line.toList = text
  rcases text with _ | ⟨c, body⟩
  · exact .inr ⟨rfl, .inl rfl⟩
  · by_cases hc : c = '.'
    · subst hc
      cases hverb : Verb.ofWord? (Text.splitWhile (fun c => !Text.isBlank c) (Text.trim body)).1 with
      | none => simp [command, hverb]
      | some verb => simp [command, hverb]
    · right
      simp [hc]

theorem handle_of_meant {verb : Verb} {argument : String} (batches : Nat)
    (h : meant? line = some (verb, argument)) :
    s.handle batches line = { s.obey batches argument verb with history := [line] } := by
  rcases s.handle_cases batches line with ⟨verb', argument', hm, hhandle⟩ | ⟨hnone, -⟩
  · cases h.symm.trans hm
    exact hhandle
  · cases h.symm.trans hnone

/-- A line can make the session write at a place: by saving there, or by a run whose pictures can be
written there. -/
def Writes (s : Session) (line : String) (place : List String) : Prop :=
  match meant? line with
  | some (.save, path) => s.files.target path = .ok place
  | some (.run, _) => PicturePlace s.options s.files.here place
  | _ => False

theorem grows_run (s : Session) (batches : Nat) :
    s.files.Grows (PicturePlace s.options s.files.here) (s.run batches).session.files := by
  unfold run
  split
  · exact .refl _ s.files
  · exact grows_present batches s.files s.logbook _ s.craft

theorem grows_handle (s : Session) (batches : Nat) (line : String) :
    s.files.Grows (s.Writes line) (s.handle batches line).session.files := by
  rcases s.handle_cases batches line with ⟨verb, argument, hm, hhandle⟩ | ⟨-, hs | henter⟩
  · rw [hhandle]
    cases verb with
    | run =>
      refine (s.grows_run batches).mono ?_
      intro place hplace
      rwa [Writes, hm]
    | save =>
      rw [obey]
      split
      · next hsave =>
        refine (grows_of_saveListing hsave).mono ?_
        intro place hplace
        rwa [Writes, hm]
      · exact .refl _ s.files
    | load =>
      rw [obey]
      split <;> exact .refl _ s.files
    | _ => exact .refl _ s.files
  · rw [hs]
    exact .refl _ s.files
  · rw [henter, session_enter]
    exact .refl _ s.files

/-- None of the lines can make the session write at a place. -/
def Spares (batches : Nat) (place : List String) : Session → List String → Prop
  | _, [] => True
  | s, line :: rest => ¬ s.Writes line place ∧ Spares batches place (s.handle batches line).session rest

theorem grows_after (s : Session) (batches : Nat) (lines : List String) :
    s.files.Grows (fun place => ¬ s.Spares batches place lines) (s.after batches lines).files := by
  induction lines generalizing s with
  | nil => exact .refl _ s.files
  | cons line rest ih =>
    have hfirst := s.grows_handle batches line
    have hrest := ih (s.handle batches line).session
    refine (hfirst.mono ?_).trans (hrest.mono ?_)
    · exact fun place hw hspares => hspares.1 hw
    · exact fun place hw hspares => hw hspares.2

theorem storable_handle (h : s.listing.Storable) (batches : Nat) (hline : '\n' ∉ line.toList) :
    (s.handle batches line).session.listing.Storable := by
  rcases s.handle_cases batches line with ⟨verb, argument, -, hhandle⟩ | ⟨-, hs | henter⟩
  · rw [hhandle]
    cases verb with
    | run =>
      rw [obey, run]
      split <;> exact h
    | new => exact .empty
    | load =>
      rw [obey]
      split
      · next hload => exact storable_of_loadListing hload
      · exact h
    | save =>
      rw [obey]
      split <;> exact h
    | _ => exact h
  · rwa [hs]
  · rw [henter, session_enter]
    exact h.push hline rfl

theorem storable_after (h : s.listing.Storable) (batches : Nat) {lines : List String}
    (hlines : ∀ line ∈ lines, '\n' ∉ line.toList) : (s.after batches lines).listing.Storable := by
  induction lines generalizing s with
  | nil => exact h
  | cons line rest ih =>
    obtain ⟨hline, hrest⟩ := List.forall_mem_cons.1 hlines
    exact ih (storable_handle h batches hline) hrest

end Session

/-! ## Saved and loaded -/

theorem session_of_save {s : Session} {line : String} {place : List String} (batches : Nat)
    (hline : meant? line = some (.save, path)) (hne : s.listing.isEmpty = false)
    (ht : s.files.target path = .ok place) :
    (s.handle batches line).session =
      { s with files := s.files.put place (.file (listingText s.listing).toUTF8) } := by
  rw [Session.handle_of_meant batches hline, Session.obey, saveListing_of_target hne ht]

theorem session_of_load {s : Session} {line : String} (batches : Nat)
    (hline : meant? line = some (.load, path)) (hload : loadListing s.files path = .ok l) :
    (s.handle batches line).session = { s with listing := l } := by
  rw [Session.handle_of_meant batches hline, Session.obey, hload]

/-- A listing made of lines without newlines, if there are any, is read back from wherever it can be written.

A session in which such lines were typed saves its listing under a path, and later loads the path. If in
between no line could write where the listing was saved, or the file there is the same at least, the session
gets the listing back and keeps all else.

A load changes nothing but what is shown if the path leads to no file, or if some line there is no text, too
long, or not valid. -/
theorem listing_restored :
    (∀ (lines : List String) (l : Listing) (files : Files) (path : String) (place : List String),
      (∀ s ∈ lines, '\n' ∉ s.toList) → Listing.empty.pushAll lines = .ok l → l.isEmpty = false →
      files.target path = .ok place →
      ∃ saved, saveListing files l path = .ok saved ∧ loadListing saved path = .ok l) ∧
    (∀ (options : Options) (frameTimeout batches : Nat) (files : Files) (radio : Radio)
        (typed between : List String) (save load path : String) (place : List String),
      let s := (Session.new options frameTimeout files radio).after batches typed
      let saved := (s.handle batches save).session
      let later := saved.after batches between
      (∀ line ∈ typed, '\n' ∉ line.toList) → s.listing.isEmpty = false →
      meant? save = some (.save, path) → s.files.target path = .ok place →
      saved.Spares batches place between ∨ later.files.node? place = saved.files.node? place →
      meant? load = some (.load, path) →
      (later.handle batches load).session = { later with listing := s.listing }) ∧
    ∀ (s : Session) (batches : Nat) (line path : String), meant? line = some (.load, path) →
      (¬ ∃ data, s.files.openAt path = .ok (.file data) ∧ ∀ bytes ∈ byteLines data, Legible bytes) →
      ∃ fault, s.handle batches line = { session := s, output := [bold fault], history := [line] } := by
  refine ⟨?_, ?_, ?_⟩
  · intro lines l files path place hlines hl hne ht
    have hstorable : l.Storable := Listing.Storable.empty.pushAll hlines hl
    have hsave := saveListing_of_target hne ht
    exact ⟨_, hsave, loadListing_of_place hstorable ht (grows_of_saveListing hsave)
      (Files.node?_put_target ht _)⟩
  · intro options frameTimeout batches files radio typed between save load path place s saved later
      htyped hne hsave ht hkept hload
    have hstorable : s.listing.Storable := Session.storable_after .empty batches htyped
    have hsaved : saved.files = s.files.put place (.file (listingText s.listing).toUTF8) :=
      congrArg Session.files (session_of_save batches hsave hne ht)
    have hnode : saved.files.node? place = some (.file (listingText s.listing).toUTF8) := by
      rw [hsaved]
      exact Files.node?_put_target ht _
    have hlater : later.files.node? place = some (.file (listingText s.listing).toUTF8) := by
      rcases hkept with hspares | hsame
      · exact (saved.grows_after batches between).file place _ (not_not.2 hspares) hnode
      · rw [hsame, hnode]
    have hgrows : s.files.Grows (fun _ => True) later.files :=
      ((s.grows_handle batches save).mono fun _ _ => trivial).trans
        ((saved.grows_after batches between).mono fun _ _ => trivial)
    exact session_of_load batches hload (loadListing_of_place hstorable ht hgrows hlater)
  · intro s batches line path hline hnot
    rw [← loadListing_ok_iff] at hnot
    cases hload : loadListing s.files path with
    | ok l => exact absurd ⟨l, hload⟩ hnot
    | error fault =>
      refine ⟨fault, ?_⟩
      rw [Session.handle_of_meant batches hline, Session.obey, hload]

/-- A session saves two lines, one of them with a comment and a carriage return behind it, goes on to
another listing, which it saves elsewhere and runs, and loads the first again. -/
theorem listing_restored_later :
    let radio := Radio.new 0 false true .dead
    let s := (Session.new {} 0 .empty radio).after 2 ["top: nop # a \r", "", ".load q", "display \"ß\""]
    let saved := (s.handle 2 " .SAVE p").session
    let later := saved.after 2 [".new", "display 1", ".save q", ".run"]
    later.listing.lines = #["display 1"] ∧
      (later.handle 2 ".load p").session.listing.lines = #["top: nop # a", "display \"ß\""] := by
  intro radio s saved later
  have ht : s.files.target "p" = .ok ["p"] := eq_ok_of_toOption (by decide +kernel)
  have hspares : saved.Spares 2 ["p"] [".new", "display 1", ".save q", ".run"] := by
    have hnew : meant? ".new" = some (.new, "") := by decide +kernel
    have hdisplay : meant? "display 1" = none := by decide +kernel
    have hsave : meant? ".save q" = some (.save, "q") := by decide +kernel
    have hrun : meant? ".run" = some (.run, "") := by decide +kernel
    refine ⟨?_, ?_, ?_, ?_, trivial⟩
    · simp [Session.Writes, hnew]
    · simp [Session.Writes, hdisplay]
    · simp only [Session.Writes, hsave]
      intro hq
      have hplace := congrArg Except.toOption hq
      revert hplace
      decide +kernel
    · -- there is no directory for pictures
      simp only [Session.Writes, hrun]
      rintro ⟨dir, index, p, files, hdir, -⟩
      have hnone : (saved.after 2 [".new", "display 1", ".save q"]).options.showDir = none := by
        decide +kernel
      cases hnone.symm.trans hdir
  have hback : (later.handle 2 ".load p").session = { later with listing := s.listing } :=
    listing_restored.2.1 {} 0 2 .empty radio ["top: nop # a \r", "", ".load q", "display \"ß\""]
      [".new", "display 1", ".save q", ".run"] " .SAVE p" ".load p" "p" ["p"] (by decide +kernel)
      (by decide +kernel) (by decide +kernel) ht (.inl hspares) (by decide +kernel)
  rw [hback]
  exact ⟨by decide +kernel, by decide +kernel⟩

end Host
end Quadcopter
