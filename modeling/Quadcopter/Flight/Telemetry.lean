import Quadcopter.Text.Blank
import Quadcopter.Text.Split

/-!
# Quadcopter.Flight.Telemetry

What a vehicle reports about itself: values under keys, kept in the order of the keys. A packet
writes it as `key:value;key:value;`.

Main statement: a report read back has the value last put under a key (`get?_insert`).
-/

namespace Quadcopter

/-- Values under keys, in ascending order of keys. -/
structure Telemetry where
  entries : List (String × String)
  deriving DecidableEq, Repr

namespace Telemetry

def empty : Telemetry := ⟨[]⟩

instance : Inhabited Telemetry := ⟨empty⟩

/-- Put a pair at its place in a list ordered by keys, over the pair that has its key. -/
def insertInto (key value : String) : List (String × String) → List (String × String)
  | [] => [(key, value)]
  | (k, v) :: rest =>
    if key < k then (key, value) :: (k, v) :: rest
    else if key = k then (key, value) :: rest
    else (k, v) :: insertInto key value rest

def insert (t : Telemetry) (key value : String) : Telemetry := ⟨insertInto key value t.entries⟩

def get? (t : Telemetry) (key : String) : Option String := t.entries.lookup key

/-- The pair that an item of a packet writes: a key that is not empty, a colon, and the value, which
may hold further colons. -/
def item? (s : List Char) : Option (String × String) :=
  match Text.splitWhile (· != ':') s with
  | (c :: key, _ :: value) => some (String.ofList (c :: key), String.ofList value)
  | _ => none

/-- The report that a packet writes. Items that are no pairs are passed over. -/
def ofPacket (packet : String) : Telemetry :=
  ((Text.splitAt ';' (Text.trim packet.toList)).filterMap item?).foldl
    (fun t (key, value) => t.insert key value) empty

theorem lookup_insertInto (key value k : String) (entries : List (String × String)) :
    (insertInto key value entries).lookup k =
      if k = key then some value else entries.lookup k := by
  induction entries with
  | nil => rw [insertInto, List.lookup_cons]; split <;> simp_all
  | cons entry rest ih =>
    obtain ⟨k', v⟩ := entry
    rw [insertInto]
    split
    · rw [List.lookup_cons]; split <;> simp_all
    · split
      · next hk => subst hk; rw [List.lookup_cons, List.lookup_cons]; split <;> simp_all
      · next hk =>
        rw [List.lookup_cons, List.lookup_cons, ih]
        split
        · next h => rw [beq_iff_eq] at h; subst h; rw [if_neg (Ne.symm hk)]
        · rfl

theorem get?_insert (t : Telemetry) (key value k : String) :
    (t.insert key value).get? k = if k = key then some value else t.get? k :=
  lookup_insertInto key value k t.entries

end Telemetry
end Quadcopter
