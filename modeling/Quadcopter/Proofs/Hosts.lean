import Quadcopter.Host.CommandLine
import Quadcopter.Proofs.Listings
import Quadcopter.Proofs.Restart

/-!
# Quadcopter.Proofs.Hosts

The two hosts. A session keeps one machine and one listing through any number of runs; the host of a file
builds both anew. They show the same.

* `Tells`: the events of a run, step by step. A host looks only at the ends of batches, and misses none of
  them (`Batch.tells_iff`).
* `perform_ends_iff`, `perform_well_iff`: a run ends for the host when it tells that it has stopped, and
  ends well if it tells no fault.
* `Session.Steady`: what a session keeps of its start, whatever is typed (`Steady.after`).
* `hosts_agree`: a session and the host of a file show the same for the same listing.
-/

namespace Quadcopter
namespace Host

variable {V E : Type} [Vehicle V] [Vision E]

/-! ## Events -/

/-- A run tells an event, now or later, to a host that shows what it is told. What the host shows can
change the files that the run finds. -/
inductive Tells (options : Options) : Machine V E → Stage → Event → Prop where
  | now {m : Machine V E} {s : Stage} : Tells options m s (m.step s.files).1
  | later {m : Machine V E} {s : Stage} {x : Event} :
      Tells options (m.step s.files).2 (s.hear options (m.step s.files).1) x → Tells options m s x

variable {options : Options} {m m' : Machine V E} {s : Stage} {x event : Event}

theorem tells_iff : Tells options m s x ↔
    x = (m.step s.files).1 ∨
      Tells options (m.step s.files).2 (s.hear options (m.step s.files).1) x := by
  constructor
  · intro h
    cases h with
    | now => exact .inl rfl
    | later h => exact .inr h
  · rintro (rfl | h)
    · exact .now
    · exact .later h

/-- A machine that does not run tells nothing but that it has stopped. -/
theorem eq_stopped_of_tells (hm : m.isRunning = false) (h : Tells options m s x) : x = .stopped := by
  induction h with
  | now => rw [Machine.step_of_not_live _ hm]
  | @later m s x _ ih =>
    have hstep : (m.step s.files).2 = m := by rw [Machine.step_of_not_live _ hm]
    exact ih (by rwa [hstep])

/-! ## Batches -/

theorem failed_step {files : Files} (h : m.step files = (event, m')) (he : ∀ f, event ≠ .error f) :
    m'.failed = m.failed := by
  have hs := Machine.step_spec files m
  rw [h] at hs
  cases hs with
  | unreadable => exact absurd rfl (he _)
  | failed => exact absurd rfl (he _)
  | _ => rfl

/-- An event that is the end of a run. -/
def Ends (event : Event) : Prop := event = .stopped ∨ ∃ fault, event = .error fault

theorem isRunning_step {files : Files} (h : m.step files = (event, m')) (he : Ends event) :
    m'.isRunning = false := by
  have hs := Machine.step_spec files m
  rw [h] at hs
  cases hs with
  | idle hidle => exact hidle
  | ran runs ho hne herr =>
    rcases he with rfl | ⟨f, rfl⟩
    · exact absurd rfl hne
    · exact absurd rfl (herr f)
  | _ => rfl

/-- A batch of steps: the run goes on, until the last step tells an event. -/
inductive Batch (files : Files) : Machine V E → Event → Machine V E → Prop where
  | last {m m' : Machine V E} {event : Event} : m.step files = (event, m') → Batch files m event m'
  | on {m m₁ m' : Machine V E} {event : Event} :
      m.step files = (.running, m₁) → Batch files m₁ event m' → Batch files m event m'

theorem batch_of_execute {files : Files} {n : Nat} (h : m.execute files (n + 1) = (event, m')) :
    Batch files m event m' := by
  induction n generalizing m with
  | zero =>
    rw [Machine.execute] at h
    split at h
    · next hs => cases h; exact .last hs
    · exact .last h
  | succ n ih =>
    rw [Machine.execute] at h
    split at h
    · next hs => exact .on hs (ih h)
    · exact .last h

/-- Nothing is lost between the ends of batches: in a batch only the last step tells more than that the
run goes on. -/
theorem Batch.tells_iff (h : Batch s.files m event m') (hx : x ≠ .running) :
    Tells options m s x ↔ x = event ∨ Tells options m' (s.hear options event) x := by
  induction h with
  | last hs => rw [Host.tells_iff, hs]
  | on hs _ ih =>
    rw [Host.tells_iff, hs, ← ih]
    exact or_iff_right hx

theorem Batch.failed {files : Files} (h : Batch files m event m') (he : ∀ f, event ≠ .error f) :
    m'.failed = m.failed := by
  induction h with
  | last hs => exact failed_step hs he
  | on hs _ ih => exact (ih he).trans (failed_step hs fun _ h => nomatch h)

theorem Batch.isRunning {files : Files} (h : Batch files m event m') (he : Ends event) :
    m'.isRunning = false := by
  induction h with
  | last hs => exact isRunning_step hs he
  | on _ _ ih => exact ih he

/-! ## The loop of a host -/

theorem perform_stopped (n : Nat) (h : m.execute s.files batch = (.stopped, m')) :
    perform options (n + 1) m s = (some !m'.failed, m', s) := by
  rw [perform, h]

theorem perform_error {fault : Fault} (n : Nat) (h : m.execute s.files batch = (.error fault, m')) :
    perform options (n + 1) m s = (some false, m', s.hear options (.error fault)) := by
  rw [perform, h]

theorem perform_on (n : Nat) (h : m.execute s.files batch = (event, m')) (he : ¬ Ends event) :
    perform options (n + 1) m s = perform options n m' (s.hear options event) := by
  rw [perform, h]
  cases event with
  | stopped => exact absurd (.inl rfl) he
  | error fault => exact absurd (.inr ⟨fault, rfl⟩) he
  | _ => rfl

/-- A run that has not failed ends well for the host if it never tells a fault. -/
theorem perform_well_iff {n : Nat} {well : Bool} (hm : m.failed = false)
    (h : (perform options n m s).1 = some well) :
    well = true ↔ ∀ fault, ¬ Tells options m s (.error fault) := by
  induction n generalizing m s with
  | zero => cases h
  | succ n ih =>
    obtain ⟨event, m', he⟩ : ∃ event m', m.execute s.files batch = (event, m') := ⟨_, _, rfl⟩
    have hb : Batch s.files m event m' := batch_of_execute he
    have htells : ∀ fault, Tells options m s (.error fault) ↔
        .error fault = event ∨ Tells options m' (s.hear options event) (.error fault) :=
      fun fault => hb.tells_iff nofun
    by_cases hends : Ends event
    · have hidle : m'.isRunning = false := hb.isRunning hends
      rcases hends with rfl | ⟨fault, rfl⟩
      · rw [perform_stopped n he, hb.failed (fun _ h => nomatch h), hm] at h
        cases h
        refine iff_of_true rfl fun fault ht => ?_
        rcases (htells fault).1 ht with heq | ht
        · cases heq
        · cases eq_stopped_of_tells hidle ht
      · rw [perform_error n he] at h
        cases h
        exact iff_of_false Bool.false_ne_true fun hnone => hnone fault ((htells fault).2 (.inl rfl))
    · rw [perform_on n he hends] at h
      have hne : ∀ fault, event ≠ .error fault := fun fault heq => hends (.inr ⟨fault, heq⟩)
      rw [ih ((hb.failed hne).trans hm) h]
      refine forall_congr' fun fault => not_congr ?_
      rw [htells]
      exact (or_iff_right (hne fault).symm).symm

theorem tells_stopped_of_perform {n : Nat} (h : (perform options n m s).1.isSome = true) :
    Tells options m s .stopped := by
  induction n generalizing m s with
  | zero => cases h
  | succ n ih =>
    obtain ⟨event, m', he⟩ : ∃ event m', m.execute s.files batch = (event, m') := ⟨_, _, rfl⟩
    have hb : Batch s.files m event m' := batch_of_execute he
    refine (hb.tells_iff (x := .stopped) nofun).2 ?_
    by_cases hends : Ends event
    · right
      -- the next step finds that the run is over
      have hnext : (m'.step (s.hear options event).files).1 = .stopped := by
        rw [Machine.step_of_not_live _ (hb.isRunning hends)]
      exact hnext ▸ .now
    · rw [perform_on n he hends] at h
      exact .inr (ih h)

/-- A host that has heard an event meets the end of the run: the event is the end, or some number of
batches more leads there. -/
def Meets (options : Options) (m : Machine V E) (s : Stage) (event : Event) : Prop :=
  Ends event ∨ ∃ n, (perform options n m (s.hear options event)).1.isSome = true

theorem perform_of_batch
    (h : ∀ event m', m.execute s.files batch = (event, m') → Meets options m' s event) :
    ∃ n, (perform options n m s).1.isSome = true := by
  obtain ⟨event, m', he⟩ : ∃ event m', m.execute s.files batch = (event, m') := ⟨_, _, rfl⟩
  by_cases hends : Ends event
  · refine ⟨1, ?_⟩
    rcases hends with rfl | ⟨fault, rfl⟩
    · rw [perform_stopped 0 he]; rfl
    · rw [perform_error 0 he]; rfl
  · obtain ⟨n, hn⟩ := (h event m' he).resolve_left hends
    exact ⟨n + 1, by rwa [perform_on n he hends]⟩

theorem meets_of_batch
    (h : ∀ c event m', m.execute s.files (c + 1) = (event, m') → Meets options m' s event) (c : Nat)
    (he : m.execute s.files c = (event, m')) : Meets options m' s event := by
  cases c with
  | zero =>
    cases he
    exact .inr (perform_of_batch (h (batch - 1)))
  | succ c => exact h c event m' he

/-- A host that is told the end of a run meets it wherever its batches begin: `c` is what is left of the
batch that it is in. -/
theorem meets_of_tells (h : Tells options m s x) (hx : x = .stopped) (c : Nat)
    (he : m.execute s.files c = (event, m')) : Meets options m' s event := by
  induction h generalizing c event m' with
  | @now m s =>
    refine meets_of_batch (fun c event m' he => ?_) c he
    have htold : m.execute s.files (c + 1) = m.step s.files := by
      rw [Machine.execute]
      split
      · next hs => rw [hs] at hx; cases hx
      · rfl
    rw [htold] at he
    rw [he] at hx
    exact .inl (.inl hx)
  | @later m s x _ ih =>
    refine meets_of_batch (fun c event m' he => ?_) c he
    generalize hs : m.step s.files = told at ih
    obtain ⟨e, m₁⟩ := told
    rw [Machine.execute, hs] at he
    cases e with
    | running => exact ih hx c he
    | _ =>
      cases he
      exact (ih hx 0 rfl).elim (fun hr => by simp [Ends] at hr) .inr

theorem perform_ends_iff :
    (∃ n, (perform options n m s).1.isSome = true) ↔ Tells options m s .stopped := by
  constructor
  · rintro ⟨n, hn⟩
    exact tells_stopped_of_perform hn
  · intro h
    exact (meets_of_tells h rfl 0 rfl).resolve_left (by simp [Ends])

/-! ## Runs as a host presents them -/

/-- What is shown depends on the machine only as it is after the start. -/
theorem transcript_present (options : Options) (n : Nat) (files : Files) {b b' : Logbook V E}
    {program : Program} {v : V} (h : b.machine.start program v = b'.machine.start program v) :
    (present options n files b program v).transcript =
      (present options n files b' program v).transcript := by
  obtain ⟨result, m, hm⟩ : ∃ result m, b'.machine.start program v = (result, m) := ⟨_, _, rfl⟩
  rw [hm] at h
  cases result <;> simp [present, Performance.transcript, Logbook.start, h, hm]

theorem code_present {b : Logbook V E} {program : Program} {v : V} (n : Nat) (files : Files)
    (h : b.machine.start program v = (.ok (), m)) :
    (present options n files b program v).transcript.code =
      (perform options n m ⟨files, #[], 0⟩).1.map fun success => if success then 0 else 1 := by
  simp only [present, Performance.transcript, Logbook.start, h]

theorem frameTimeout_step {files : Files} (h : m.step files = (event, m')) :
    m'.frameTimeout = m.frameTimeout := by
  have hs := Machine.step_spec files m
  rw [h] at hs
  cases hs <;> rfl

theorem Batch.frameTimeout {files : Files} (h : Batch files m event m') :
    m'.frameTimeout = m.frameTimeout := by
  induction h with
  | last hs => exact frameTimeout_step hs
  | on hs _ ih => exact ih.trans (frameTimeout_step hs)

theorem frameTimeout_perform (options : Options) (n : Nat) (m : Machine V E) (s : Stage) :
    (perform options n m s).2.1.frameTimeout = m.frameTimeout := by
  induction n generalizing m s with
  | zero => rfl
  | succ n ih =>
    obtain ⟨event, m', he⟩ : ∃ event m', m.execute s.files batch = (event, m') := ⟨_, _, rfl⟩
    have hm' : m'.frameTimeout = m.frameTimeout := (batch_of_execute he).frameTimeout
    by_cases hends : Ends event
    · rcases hends with rfl | ⟨fault, rfl⟩
      · rw [perform_stopped n he]; exact hm'
      · rw [perform_error n he]; exact hm'
    · rw [perform_on n he hends, ih, hm']

omit [Vision E] in
theorem frameTimeout_start (m : Machine V E) (program : Program) (v : V) :
    (m.start program v).2.frameTimeout = m.frameTimeout := by
  unfold Machine.start
  dsimp only
  split <;> rfl

theorem frameTimeout_present (n : Nat) (files : Files) (b : Logbook V E) (program : Program) (v : V) :
    (present options n files b program v).logbook.machine.frameTimeout = b.machine.frameTimeout := by
  have hstart := frameTimeout_start b.machine program v
  obtain ⟨result, m, hm⟩ : ∃ result m, b.machine.start program v = (result, m) := ⟨_, _, rfl⟩
  rw [hm] at hstart
  cases result with
  | error fault => simpa [present, Logbook.start, hm] using hstart
  | ok u => simpa [present, Logbook.start, hm, frameTimeout_perform] using hstart

/-! ## Sessions -/

namespace Session

/-- The session after it has handled some lines. -/
def after (s : Session) (batches : Nat) (lines : List String) : Session :=
  lines.foldl (fun s line => (s.handle batches line).session) s

/-- What a session keeps: its options, the time that it waits for a frame, and that each line of its
listing was accepted. -/
structure Steady (options : Options) (frameTimeout : Nat) (s : Session) : Prop where
  options : s.options = options
  frameTimeout : s.logbook.machine.frameTimeout = frameTimeout
  listing : s.listing.Sound

namespace Steady

variable {options : Options} {frameTimeout : Nat} {s : Session}

theorem new (options : Options) (frameTimeout : Nat) (files : Files) (radio : Radio) :
    Steady options frameTimeout (.new options frameTimeout files radio) :=
  ⟨rfl, rfl, .empty⟩

theorem run (h : Steady options frameTimeout s) (batches : Nat) :
    Steady options frameTimeout (s.run batches).session := by
  unfold Session.run
  split
  · exact h
  · exact ⟨h.options, (frameTimeout_present ..).trans h.frameTimeout, h.listing⟩

theorem obey (h : Steady options frameTimeout s) (batches : Nat) (argument : String) (verb : Verb) :
    Steady options frameTimeout (s.obey batches argument verb).session := by
  cases verb with
  | run => exact h.run batches
  | new => exact ⟨h.options, h.frameTimeout, .empty⟩
  | load =>
    rw [Session.obey]
    split
    · next hload => exact ⟨h.options, h.frameTimeout, sound_of_loadListing hload⟩
    · exact h
  | save =>
    rw [Session.obey]
    split
    · exact ⟨h.options, h.frameTimeout, h.listing⟩
    · exact h
  | live => exact ⟨h.options, h.frameTimeout, h.listing⟩
  | sim => exact ⟨h.options, h.frameTimeout, h.listing⟩
  | _ => exact h

theorem command (h : Steady options frameTimeout s) (batches : Nat) (line : String) (body : List Char) :
    Steady options frameTimeout (s.command batches line body).session := by
  unfold Session.command
  dsimp only
  split
  · exact h.obey batches _ _
  · exact h

theorem enter (h : Steady options frameTimeout s) (line : String) :
    Steady options frameTimeout (s.enter line).session := by
  rw [Session.session_enter]
  exact ⟨h.options, h.frameTimeout, h.listing.push rfl⟩

theorem handle (h : Steady options frameTimeout s) (batches : Nat) (line : String) :
    Steady options frameTimeout (s.handle batches line).session := by
  unfold Session.handle
  split
  · exact h
  · exact h.command batches line _
  · exact h.enter line

theorem after (h : Steady options frameTimeout s) (batches : Nat) (lines : List String) :
    Steady options frameTimeout (s.after batches lines) := by
  induction lines generalizing s with
  | nil => exact h
  | cons line lines ih => exact ih (h.handle batches line)

end Steady

/-- The line `.run` runs the listing. -/
theorem handle_run (s : Session) (batches : Nat) :
    s.handle batches ".run" = { s.run batches with history := [".run"] } := by
  have hline : Text.trim ".run".toList = ['.', 'r', 'u', 'n'] := by decide
  have hwords : Text.splitWhile (fun c => !Text.isBlank c) (Text.trim ['r', 'u', 'n']) =
      (['r', 'u', 'n'], []) := by decide
  have hverb : Verb.ofWord? ['r', 'u', 'n'] = some .run := by decide +kernel
  simp only [handle, hline, command, hwords, hverb, obey]

theorem shown_at_run {s : Session} {program : Program} (n : Nat)
    (hprogram : s.listing.compile = .ok program) :
    let t := (present s.options n s.files s.logbook program s.craft).transcript
    (s.handle n ".run").text = t.stdout ∧ (s.handle n ".run").session.files = t.files := by
  simp only [handle_run, run, hprogram]
  exact ⟨rfl, rfl⟩

end Session

/-! ## Both hosts -/

theorem runFile_of_listing {frameTimeout : Nat} {files : Files} {path : String} {radio : Radio}
    {listing : Listing} {program : Program} (n : Nat) (hcheck : options.check = false)
    (hload : loadListing files path = .ok listing) (hprogram : listing.compile = .ok program) :
    runFile options frameTimeout n files path radio =
      (present options n files (.new (.new frameTimeout Blind.mk)) program
        (craft options.live radio)).transcript := by
  have hcompiled : (loadListing files path).bind (·.compile) = .ok program := by
    rw [hload]
    exact hprogram
  unfold runFile
  rw [hcompiled]
  simp only [hcheck]
  rfl

/-- A session's machine starts as a new one, so the file shows what the session shows. -/
theorem runFile_of_session {s : Session} {frameTimeout : Nat} {path : String} {radio : Radio}
    {program : Program} (n : Nat) (hs : s.Steady options frameTimeout) (hcheck : options.check = false)
    (hlive : s.live = false) (hsim : options.live = false) (hload : loadListing s.files path = .ok s.listing)
    (hprogram : s.listing.compile = .ok program) :
    runFile options frameTimeout n s.files path radio =
      (present s.options n s.files s.logbook program s.craft).transcript := by
  have hcraft : s.craft = craft options.live radio := by
    rw [Session.craft, hlive, hsim]
    rfl
  have hstart : s.logbook.machine.start program s.craft =
      (Logbook.new (.new frameTimeout Blind.mk)).machine.start program s.craft := by
    rw [s.logbook.machine.start_eq_start_new, hs.frameTimeout]
    rfl
  rw [transcript_present s.options n s.files hstart, hs.options, hcraft]
  exact runFile_of_listing n hcheck hload hprogram

theorem start_simulated (m : Machine Craft Blind) (program : Program) :
    ∃ m', m.start program (.simulated .start) = (.ok (), m') ∧ m'.failed = false :=
  ⟨_, rfl, rfl⟩

/-- Take a session in which any lines were typed and which flies the simulator, and a file that holds the
lines of its listing. If the file is run, and not only checked, with the options of the session, then for
any number of batches it shows what the session shows at `.run`, and leaves the same files. It ends if the
run tells that it has stopped, and its exit code is 0 if and only if the run tells no fault. -/
theorem hosts_agree (options : Options) (frameTimeout batches : Nat) (files : Files) (radio radio' : Radio)
    (lines : List String) (path : String) (data : ByteArray) (hcheck : options.check = false)
    (hsim : options.live = false) :
    let s := (Session.new options frameTimeout files radio).after batches lines
    let file (n : Nat) := runFile options frameTimeout n s.files path radio'
    s.live = false → s.files.openAt path = .ok (.file data) →
    byteLines data = s.listing.lines.toList.map bytesOf →
    (∀ n, (file n).stdout = (s.handle n ".run").text ∧ (file n).stderr = "" ∧
      (file n).files = (s.handle n ".run").session.files) ∧
    ∃ program, s.listing.compile = .ok program ∧
      let m := (s.logbook.machine.start program s.craft).2
      let stage : Stage := ⟨s.files, #[], 0⟩
      ((∃ n, (file n).code.isSome = true) ↔ Tells options m stage .stopped) ∧
      ∀ n code, (file n).code = some code →
        (code = 0 ↔ ∀ fault, ¬ Tells options m stage (.error fault)) := by
  intro s file hlive hopen hdata
  have hs : s.Steady options frameTimeout := (Session.Steady.new options frameTimeout files radio).after ..
  obtain ⟨program, hprogram⟩ := hs.listing.compile
  have hload : loadListing s.files path = .ok s.listing := loadListing_of_lines hs.listing hopen hdata
  have hfile : ∀ n, file n = (present s.options n s.files s.logbook program s.craft).transcript :=
    fun n => runFile_of_session n hs hcheck hlive hsim hload hprogram
  refine ⟨?_, program, hprogram, ?_⟩
  · intro n
    obtain ⟨htext, hfiles⟩ := Session.shown_at_run n hprogram
    rw [hfile, htext, hfiles]
    exact ⟨rfl, rfl, rfl⟩
  · obtain ⟨m, hm, hfailed⟩ : ∃ m, s.logbook.machine.start program s.craft = (.ok (), m) ∧
        m.failed = false := by
      rw [Session.craft, hlive]
      exact start_simulated s.logbook.machine program
    have hcode : ∀ n, (file n).code =
        (perform options n m ⟨s.files, #[], 0⟩).1.map fun success => if success then 0 else 1 := by
      intro n
      rw [hfile, hs.options]
      exact code_present n s.files hm
    rw [hm]
    constructor
    · rw [← perform_ends_iff]
      refine exists_congr fun n => ?_
      rw [hcode, Option.isSome_map]
    · intro n code hended
      rw [hcode, Option.map_eq_some_iff] at hended
      obtain ⟨well, hwell, rfl⟩ := hended
      rw [← perform_well_iff hfailed hwell]
      cases well <;> simp

/-- The bytes of a file that was opened. -/
def openedBytes : Except Refusal Node → Option (List UInt8)
  | .ok (.file data) => some data.data.toList
  | _ => none

theorem eq_file_of_openedBytes {opened : Except Refusal Node} {data : ByteArray}
    (h : openedBytes opened = some data.data.toList) : opened = .ok (.file data) := by
  unfold openedBytes at h
  split at h
  · next found =>
    have hbytes : found.data = data.data := Array.toList_inj.1 (Option.some.inj h)
    rw [ByteArray.ext hbytes]
  · cases h

/-- A file that is only checked is not run: the session takes no notice of that option. -/
theorem check_shows_no_run :
    let options : Options := { check := true }
    let radio := Radio.new 0 false true .dead
    let data := "display \"a\"\n".toUTF8
    let files : Files := { nodes := [(["p"], .file data)] }
    let s := (Session.new options 0 files radio).after 2 ["display \"a\""]
    let t := runFile options 0 2 s.files "p" radio
    s.live = false ∧ s.files.openAt "p" = .ok (.file data) ∧
      byteLines data = s.listing.lines.toList.map bytesOf ∧
      (s.handle 2 ".run").text = "A\n" ∧ t.stdout = "p: 1 lines OK\n" ∧
      t.stdout ≠ (s.handle 2 ".run").text := by
  intro options radio data files s t
  have hopen : s.files.openAt "p" = .ok (.file data) := eq_file_of_openedBytes (by decide +kernel)
  exact ⟨by decide +kernel, hopen, by decide +kernel, by decide +kernel, by decide +kernel,
    by decide +kernel⟩

/-- A session that types a program with a fault in its second line, runs it, and saves it. -/
theorem hosts_agree_saved :
    let options : Options := {}
    let radio := Radio.new 0 false true .dead
    let data := "display \"a\"\npop_num $r0\n".toUTF8
    let s := (Session.new options 0 .empty radio).after 2
      ["display \"a\" ", "pop_num $r0", ".run", ".save p"]
    let t := runFile options 0 2 s.files "p" radio
    s.live = false ∧ s.files.openAt "p" = .ok (.file data) ∧
      byteLines data = s.listing.lines.toList.map bytesOf ∧
      t.stdout = (s.handle 2 ".run").text ∧ t.code = some 1 ∧
      ∃ program fault, s.listing.compile = .ok program ∧
        Tells options (s.logbook.machine.start program s.craft).2 ⟨s.files, #[], 0⟩ (.error fault) := by
  intro options radio data s t
  have hlive : s.live = false := by decide +kernel
  have hopen : s.files.openAt "p" = .ok (.file data) := eq_file_of_openedBytes (by decide +kernel)
  have hdata : byteLines data = s.listing.lines.toList.map bytesOf := by decide +kernel
  have hcode : t.code = some 1 := by decide +kernel
  obtain ⟨hshown, program, hprogram, -, hexit⟩ := hosts_agree options 0 2 .empty radio radio
    ["display \"a\" ", "pop_num $r0", ".run", ".save p"] "p" data rfl rfl hlive hopen hdata
  have hfault := not_forall.1 fun hnone => absurd ((hexit 2 1 hcode).2 hnone) (by decide)
  obtain ⟨fault, hfault⟩ := hfault
  exact ⟨hlive, hopen, hdata, (hshown 2).1, hcode, program, fault, hprogram, not_not.1 hfault⟩

end Host
end Quadcopter
