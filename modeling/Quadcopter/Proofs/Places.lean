import Quadcopter.Picture.Format

/-!
# Quadcopter.Proofs.Places

Trees of files as they grow. Nothing is ever taken out of a tree, and a directory is never written over, so
a path that leads through directories goes on leading where it did.

* `target`: the place that a write to a path fills; a write goes through if there is one (`write_eq`).
* `Grows`: directories stay. Each change that is made to a tree is of this kind.
* `openAt_of_target`: what stands at the place that a path could be written to is what is opened under the
  path, in the tree and in all that it grows into.
-/

namespace Quadcopter
namespace Files

variable {f g h : Files} {place : List String} {s : String} {data : ByteArray}
  {written : List String → Prop}

theorem node?_put_of_ne {other : List String} (f : Files) (node : Node) (hne : other ≠ place) :
    (f.put place node).node? other = f.node? other := by
  have hlookup : (f.nodes.filter (·.1 != place)).lookup other = f.nodes.lookup other := by
    induction f.nodes with
    | nil => rfl
    | cons entry rest ih =>
      obtain ⟨key, n⟩ := entry
      by_cases hkey : key = place
      · subst hkey
        simp [List.lookup_cons, beq_false_of_ne hne, ih]
      · simp [List.lookup_cons, hkey, ih]
  simp [node?, put, List.lookup_cons, beq_false_of_ne hne, hlookup]

/-! ## Growth -/

/-- One tree can grow into another: directories stay, the working directory among them, and so do files,
unless they stand where something may be written. -/
structure Grows (written : List String → Prop) (f g : Files) : Prop where
  here : g.here = f.here
  directory : ∀ place, f.node? place = some .directory → g.node? place = some .directory
  file : ∀ place data, ¬ written place → f.node? place = some (.file data) →
    g.node? place = some (.file data)

namespace Grows

theorem refl (written : List String → Prop) (f : Files) : Grows written f f :=
  ⟨rfl, fun _ => id, fun _ _ _ => id⟩

theorem trans (hfg : Grows written f g) (hgh : Grows written g h) : Grows written f h where
  here := hgh.here.trans hfg.here
  directory place hd := hgh.directory place (hfg.directory place hd)
  file place data hw hn := hgh.file place data hw (hfg.file place data hw hn)

theorem mono {more : List String → Prop} (hfg : Grows written f g)
    (hmore : ∀ place, written place → more place) : Grows more f g where
  here := hfg.here
  directory := hfg.directory
  file place data hw := hfg.file place data fun hplace => hw (hmore place hplace)

theorem put (node : Node) (hfree : f.node? place ≠ some .directory)
    (hwritten : ∀ data, f.node? place = some (.file data) → written place) :
    Grows written f (f.put place node) where
  here := rfl
  directory other hd := by
    have hne : other ≠ place := by
      rintro rfl
      exact hfree hd
    rwa [node?_put_of_ne f node hne]
  file other data hw hn := by
    have hne : other ≠ place := by
      rintro rfl
      exact hw (hwritten data hn)
    rwa [node?_put_of_ne f node hne]

end Grows

theorem lookup_eq_ok {name : String} {found : Option Node} (hl : f.lookup place name = .ok found) :
    name.utf8ByteSize ≤ maxNameBytes ∧ f.node? (place ++ [name]) = found := by
  unfold lookup at hl
  split at hl
  · cases hl
  · next hshort => exact ⟨Nat.not_lt.1 hshort, Except.ok.inj hl⟩

theorem lookup_of_short {name : String} (hn : name.utf8ByteSize ≤ maxNameBytes) :
    f.lookup place name = .ok (f.node? (place ++ [name])) := if_neg (Nat.not_lt.2 hn)

/-- A walk through directories ends where it did. -/
theorem enter_of_grows (hfg : Grows written f g) {steps stop : List String}
    (he : f.enter place steps = .ok stop) : g.enter place steps = .ok stop := by
  fun_induction f.enter place steps with
  | case1 => exact he
  | case2 place rest ih => exact ih he
  | case3 place rest ih => exact ih he
  | case4 => cases he
  | case5 => cases he
  | case6 => cases he
  | case7 place name rest hdot hdots hl ih =>
    obtain ⟨hshort, hd⟩ := lookup_eq_ok hl
    have hl' : g.lookup place name = .ok (some .directory) := by
      rw [lookup_of_short hshort, hfg.directory _ hd]
    rw [enter, hl']
    · exact ih he
    · exact hdot
    · exact hdots

theorem locate_of_grows (hfg : Grows written f g) {path : Path} {spot : Spot} (hl : f.locate path = .ok spot) :
    g.locate path = .ok spot := by
  have hbase : g.base path = f.base path := by rw [base, base, hfg.here]
  unfold locate at hl ⊢
  rw [hbase]
  cases he : f.enter (f.base path) path.steps.dropLast with
  | error why => rw [he] at hl; cases hl
  | ok stop =>
    rw [he] at hl
    rw [enter_of_grows hfg he]
    exact hl

/-! ## Writing -/

/-- The place that a write to a path fills. -/
def target (f : Files) (s : String) : Except Refusal (List String) :=
  match Path.ofString s with
  | .error why => .error why
  | .ok path =>
    match f.locate path with
    | .error why => .error why
    | .ok .directory => .error .isDirectory
    | .ok (.entry place name) =>
      if path.slashed then .error .isDirectory
      else
        match f.lookup place name with
        | .error why => .error why
        | .ok (some .directory) => .error .isDirectory
        | .ok _ => .ok (place ++ [name])

theorem write_eq (f : Files) (s : String) (data : ByteArray) :
    f.write s data = (f.target s).map fun place => f.put place (.file data) := by
  unfold write target
  cases Path.ofString s with
  | error why => rfl
  | ok path =>
    dsimp only
    rcases f.locate path with why | (_ | ⟨place, name⟩)
    · rfl
    · rfl
    · dsimp only
      split
      · rfl
      · rcases f.lookup place name with why | (_ | (_ | _)) <;> rfl

/-- A path that can be written to names an entry of a directory, which is no directory itself. -/
theorem target_spec (ht : f.target s = .ok place) :
    ∃ path parent name, Path.ofString s = .ok path ∧ f.locate path = .ok (.entry parent name) ∧
      path.slashed = false ∧ name.utf8ByteSize ≤ maxNameBytes ∧ place = parent ++ [name] ∧
      f.node? place ≠ some .directory := by
  unfold target at ht
  split at ht
  · cases ht
  next path hpath =>
    split at ht
    · cases ht
    · cases ht
    next parent name hlocate =>
      split at ht
      · cases ht
      next hslashed =>
        split at ht
        · cases ht
        · cases ht
        next found hnot hl =>
          cases ht
          obtain ⟨hshort, hnode⟩ := lookup_eq_ok hl
          exact ⟨path, parent, name, hpath, hlocate, Bool.eq_false_iff.2 hslashed, hshort, rfl,
            hnode ▸ hnot⟩

theorem node?_put_target (ht : f.target s = .ok place) (node : Node) :
    (f.put place node).node? place = some node := by
  obtain ⟨-, parent, name, -, -, -, -, rfl, -⟩ := target_spec ht
  exact node?_put f node (List.concat_ne_nil name parent)

theorem openAt_of_target (ht : f.target s = .ok place) (hfg : Grows written f g)
    (hnode : g.node? place = some (.file data)) : g.openAt s = .ok (.file data) := by
  obtain ⟨path, parent, name, hpath, hlocate, hslashed, hshort, rfl, -⟩ := target_spec ht
  rw [openAt, hpath]
  dsimp only
  rw [find, locate_of_grows hfg hlocate]
  simp only [lookup_of_short hshort, hnode, hslashed]
  rfl

/-! ## What makes a tree grow -/

theorem grows_of_write (hw : f.write s data = .ok g) : Grows (f.target s = .ok ·) f g := by
  rw [write_eq] at hw
  cases ht : f.target s with
  | error why => rw [ht] at hw; cases hw
  | ok place =>
    rw [ht] at hw
    cases hw
    obtain ⟨-, -, -, -, -, -, -, -, hfree⟩ := target_spec ht
    exact .put _ hfree fun _ _ => rfl

/-- A directory is made where there was nothing. -/
theorem grows_of_make {path : Path} (hm : f.make path = .ok g) : Grows written f g := by
  unfold make at hm
  split at hm
  · cases hm
  · cases hm
  next parent name hlocate =>
    split at hm
    · cases hm
    · cases hm
    next hl =>
      cases hm
      have hnone : f.node? (parent ++ [name]) = none := (lookup_eq_ok hl).2
      refine .put _ ?_ ?_
      · rw [hnone]; exact nofun
      · rw [hnone]; exact nofun

theorem grows_settle (f : Files) (path : Path) : Grows written f (f.settle path).2 := by
  unfold settle
  split
  · next hm => exact grows_of_make hm
  · exact .refl _ f

theorem grows_makeAll (f : Files) (path : Path) (names : List String) :
    Grows written f (f.makeAll path names).2 := by
  induction names generalizing f path with
  | nil => exact grows_settle f path
  | cons name above ih =>
    have habove := ih f ⟨path.fromRoot, above.reverse, false⟩
    rw [makeAll]
    split
    · split
      · next ha => rwa [ha] at habove
      · next made ha =>
        rw [ha] at habove
        exact habove.trans (grows_settle made path)
    · exact grows_settle f path

theorem grows_makeDirectory (f : Files) (s : String) : Grows written f (f.makeDirectory s).2 := by
  unfold makeDirectory
  split
  · exact .refl _ f
  · split
    · exact .refl _ f
    · exact grows_makeAll f _ _

end Files

theorem Picture.grows_save (p : Picture) (files : Files) (path : String) :
    files.Grows (files.target path = .ok ·) (p.save files path).2 := by
  unfold Picture.save
  split
  · exact .refl _ files
  · dsimp only
    split
    · exact .refl _ files
    · next hw =>
      have hgrows := Files.grows_of_write hw
      split <;> exact hgrows

end Quadcopter
