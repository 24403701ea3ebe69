import Mathlib.Data.List.Basic
import Mathlib.Data.List.Induction
import Quadcopter.Flight.Telemetry
import Quadcopter.Proofs.Lines
import Quadcopter.Proofs.Spelling

/-!
# Quadcopter.Proofs.Packets

Telemetry packets and the reports that they write.

* `Telemetry.Item`: what a packet is made of, pairs and junk; `packet` writes items one after the other.
* `ofPacket_packet`: a packet is read back item by item. White space in front of the first item is lost, so
  a first key must not start with it.
* `get?_report`, `ascending_report`: a report has the last value of each key, and each key once.
-/

namespace Quadcopter
namespace Telemetry

open Text

/-! ## Reports -/

/-- Every key stands once, in ascending order. -/
def Ascending (t : Telemetry) : Prop := t.entries.Pairwise fun a b => a.1 < b.1

theorem mem_insertInto {key value : String} {entries : List (String × String)} {entry : String × String}
    (h : entry ∈ insertInto key value entries) : entry = (key, value) ∨ entry ∈ entries := by
  induction entries with
  | nil => exact .inl (List.mem_singleton.1 h)
  | cons first rest ih =>
    rw [insertInto] at h
    split at h
    · exact List.mem_cons.1 h
    · split at h
      · rcases List.mem_cons.1 h with rfl | h
        · exact .inl rfl
        · exact .inr (List.mem_cons_of_mem _ h)
      · rcases List.mem_cons.1 h with rfl | h
        · exact .inr List.mem_cons_self
        · rcases ih h with rfl | h
          · exact .inl rfl
          · exact .inr (List.mem_cons_of_mem _ h)

theorem Ascending.insert {t : Telemetry} (h : t.Ascending) (key value : String) :
    (t.insert key value).Ascending := by
  obtain ⟨entries⟩ := t
  unfold Ascending Telemetry.insert at *
  induction entries with
  | nil => exact List.pairwise_singleton _ _
  | cons first rest ih =>
    obtain ⟨k, v⟩ := first
    obtain ⟨hfirst, hrest⟩ := List.pairwise_cons.1 h
    simp only [insertInto]
    split
    · next hlt =>
      refine List.pairwise_cons.2 ⟨?_, h⟩
      intro entry hentry
      rcases List.mem_cons.1 hentry with rfl | hentry
      · exact hlt
      · exact String.lt_trans hlt (hfirst entry hentry)
    · next hnot =>
      split
      · next heq =>
        subst heq
        exact List.pairwise_cons.2 ⟨hfirst, hrest⟩
      · next hne =>
        have hlt : k < key := Std.lt_of_le_of_ne (String.not_lt.1 hnot) (Ne.symm hne)
        refine List.pairwise_cons.2 ⟨?_, ih hrest⟩
        intro entry hentry
        rcases mem_insertInto hentry with rfl | hentry
        · exact hlt
        · exact hfirst entry hentry

theorem Ascending.mem_iff {t : Telemetry} (h : t.Ascending) {key value : String} :
    (key, value) ∈ t.entries ↔ t.get? key = some value := by
  obtain ⟨entries⟩ := t
  unfold Ascending at h
  unfold get?
  induction entries with
  | nil => simp
  | cons first rest ih =>
    obtain ⟨k, v⟩ := first
    obtain ⟨hfirst, hrest⟩ := List.pairwise_cons.1 h
    have hlater : (k, value) ∉ rest := fun hm => String.lt_irrefl k (hfirst _ hm)
    rw [List.mem_cons, ih hrest, List.lookup_cons]
    by_cases hk : key = k
    · subst hk
      have hnone : rest.lookup key ≠ some value := fun hs => hlater ((ih hrest).2 hs)
      simp [hnone, eq_comm]
    · have hbeq : (key == k) = false := by simpa using hk
      simp [hk, hbeq]

/-- The report of pairs, the first put in first. -/
def report (pairs : List (String × String)) : Telemetry :=
  pairs.foldl (fun t (key, value) => t.insert key value) empty

theorem report_concat (pairs : List (String × String)) (key value : String) :
    report (pairs ++ [(key, value)]) = (report pairs).insert key value := by
  simp [report]

theorem ascending_report (pairs : List (String × String)) : (report pairs).Ascending := by
  induction pairs using List.reverseRecOn with
  | nil => exact .nil
  | append_singleton pairs pair ih =>
    rw [report_concat]
    exact ih.insert _ _

/-- The values of a key, in order. -/
def valuesOf (key : String) (pairs : List (String × String)) : List String :=
  pairs.filterMap fun pair => if pair.1 = key then some pair.2 else none

theorem get?_report (pairs : List (String × String)) (key : String) :
    (report pairs).get? key = (valuesOf key pairs).getLast? := by
  induction pairs using List.reverseRecOn with
  | nil => rfl
  | append_singleton pairs pair ih =>
    obtain ⟨k, v⟩ := pair
    rw [report_concat, get?_insert, ih, valuesOf, valuesOf, List.filterMap_append]
    by_cases hk : key = k
    · simp [hk]
    · simp [hk, Ne.symm hk]

/-! ## Items -/

/-- What stands between the semicolons of a packet. -/
inductive Item where
  | pair (key value : String)
  | junk (text : String)

namespace Item

def text : Item → List Char
  | .pair key value => key.toList ++ ':' :: value.toList
  | .junk text => text.toList

def pair? : Item → Option (String × String)
  | .pair key value => some (key, value)
  | .junk _ => none

/-- An item can be told from its neighbours, and a pair from junk. -/
def WellFormed : Item → Prop
  | .pair key value =>
    key ≠ "" ∧ ':' ∉ key.toList ∧ ';' ∉ key.toList ∧ ';' ∉ value.toList
  | .junk text => ';' ∉ text.toList ∧ (':' ∉ text.toList ∨ text.toList.head? = some ':')

instance : DecidablePred WellFormed
  | .pair _ _ => inferInstanceAs (Decidable (_ ∧ _))
  | .junk _ => inferInstanceAs (Decidable (_ ∧ _))

/-- An item whose key, if it is a pair, does not start with white space. -/
def Leads : Item → Prop
  | .pair key _ => ∀ c ∈ key.toList.head?, isBlank c = false
  | .junk _ => True

variable {i : Item}

theorem WellFormed.notMem (h : i.WellFormed) : ';' ∉ i.text := by
  cases i with
  | pair key value => simp [text, h.2.2.1, h.2.2.2]
  | junk text => exact h.1

theorem item?_of_notMem {s : List Char} (h : ':' ∉ s) : item? s = none := by
  have hall : ∀ c ∈ s, (c != ':') = true := by
    intro c hc
    simp only [bne_iff_ne, ne_eq]
    rintro rfl
    exact h hc
  have hsplit : splitWhile (· != ':') s = (s, []) := by
    rw [splitWhile, List.takeWhile_eq_self_iff.2 hall, List.dropWhile_eq_nil_iff.2 hall]
  rw [item?, hsplit]
  cases s <;> rfl

theorem item?_of_colon (s : List Char) : item? (':' :: s) = none := by
  simp [item?, splitWhile]

theorem item?_pair {key : String} (value : String) (hne : key ≠ "") (hcolon : ':' ∉ key.toList) :
    item? (key.toList ++ ':' :: value.toList) = some (key, value) := by
  have hkey : ∀ c ∈ key.toList, (c != ':') = true := by
    intro c hc
    simp only [bne_iff_ne, ne_eq]
    rintro rfl
    exact hcolon hc
  rw [item?, Token.splitWhile_stop hkey (by decide)]
  cases hs : key.toList with
  | nil => exact absurd (String.toList_eq_nil_iff.1 hs) hne
  | cons c cs => simp [← hs]

theorem item?_text (h : i.WellFormed) : item? i.text = i.pair? := by
  cases i with
  | pair key value => exact item?_pair value h.1 h.2.1
  | junk text =>
    rcases h.2 with hno | hfirst
    · exact item?_of_notMem hno
    · obtain ⟨s, hs⟩ := List.head?_eq_some_iff.1 hfirst
      rw [Item.text, hs, item?_of_colon]
      rfl

/-- White space in front of the first item tells nothing. -/
theorem item?_trimStart (h : i.WellFormed) (hlead : i.Leads) : item? (trimStart i.text) = i.pair? := by
  cases i with
  | pair key value =>
    have hstart : trimStart (pair key value).text = (pair key value).text := by
      refine trimStart_of_head ?_
      cases hs : key.toList with
      | nil => exact absurd (String.toList_eq_nil_iff.1 hs) h.1
      | cons c cs => simpa [text, hs, Leads] using hlead
    rw [hstart, item?_text h]
  | junk text =>
    rcases h.2 with hno | hfirst
    · exact item?_of_notMem fun hm => hno ((List.dropWhile_sublist isBlank).subset hm)
    · obtain ⟨s, hs⟩ := List.head?_eq_some_iff.1 hfirst
      have hstart : trimStart (':' :: s) = ':' :: s := trimStart_of_head (by simp; decide)
      rw [Item.text, hs, hstart, item?_of_colon]
      rfl

end Item

/-! ## Packets -/

/-- Items written one after the other, each ended by a semicolon, and what follows the last. -/
def packet (items : List Item) (rest : List Char) : String :=
  String.ofList (ended ';' (items.map Item.text) ++ rest)

theorem trim_ended {first : List Char} {pieces : List (List Char)} {blanks : List Char}
    (hblank : ∀ c ∈ blanks, isBlank c = true) :
    trim (ended ';' (first :: pieces) ++ blanks) = ended ';' (trimStart first :: pieces) := by
  have hsplit : ended ';' (first :: pieces) =
      first.takeWhile isBlank ++ ended ';' (trimStart first :: pieces) := by
    simp [ended, trimStart, ← List.append_assoc, List.takeWhile_append_dropWhile]
  rw [hsplit]
  refine trim_between (fun c hc => List.all_eq_true.1 List.all_takeWhile c hc) ⟨?_, ?_⟩ hblank
  · have hhead := List.head?_dropWhile_not isBlank first
    cases hs : first.dropWhile isBlank with
    | nil => simp [ended, trimStart, hs]; decide
    | cons c cs => simpa [ended, trimStart, hs] using hhead
  · have hlast : (ended ';' (trimStart first :: pieces)).getLast? = some ';' := by
      rcases (trimStart first :: pieces).eq_nil_or_concat with hnil | ⟨init, last, hcat⟩
      · cases hnil
      · simp [hcat, ended]
    simp [hlast]; decide

theorem filterMap_pieces {pieces : List (List Char)} (h : ∀ piece ∈ pieces, ';' ∉ piece) :
    (splitAt ';' (ended ';' pieces)).filterMap item? = pieces.filterMap item? := by
  have hpieces : pieces.flatMap (splitAt ';') = pieces := by
    induction pieces with
    | nil => rfl
    | cons piece pieces ih =>
      rw [List.flatMap_cons, splitAt_of_notMem (h piece List.mem_cons_self),
        ih fun other hm => h other (List.mem_cons_of_mem _ hm)]
      rfl
  rw [splitAt_ended, hpieces, List.filterMap_append]
  simp [Item.item?_of_notMem]

theorem ofPacket_packet {items : List Item} {blanks : List Char} (hitems : ∀ i ∈ items, i.WellFormed)
    (hlead : ∀ i ∈ items.head?, i.Leads) (hblank : ∀ c ∈ blanks, isBlank c = true) :
    ofPacket (packet items blanks) = report (items.filterMap Item.pair?) := by
  have hpairs : (splitAt ';' (trim (ended ';' (items.map Item.text) ++ blanks))).filterMap item? =
      items.filterMap Item.pair? := by
    cases items with
    | nil =>
      have htrim : trim (ended ';' ([].map Item.text) ++ blanks) = [] := trim_of_isBlank hblank
      rw [htrim]
      rfl
    | cons first items =>
      have hfirst := hitems first List.mem_cons_self
      have hsemicolon : ∀ piece ∈ trimStart first.text :: items.map Item.text, ';' ∉ piece := by
        intro piece hm
        rcases List.mem_cons.1 hm with rfl | hm
        · exact fun hm => hfirst.notMem ((List.dropWhile_sublist isBlank).subset hm)
        · obtain ⟨i, hi, rfl⟩ := List.mem_map.1 hm
          exact (hitems i (List.mem_cons_of_mem _ hi)).notMem
      have hrest : (items.map Item.text).filterMap item? = items.filterMap Item.pair? := by
        rw [List.filterMap_map]
        exact List.filterMap_congr fun i hi => Item.item?_text (hitems i (List.mem_cons_of_mem _ hi))
      rw [List.map_cons, trim_ended hblank, filterMap_pieces hsemicolon, List.filterMap_cons,
        List.filterMap_cons, hrest, Item.item?_trimStart hfirst (hlead first rfl)]
  rw [ofPacket, packet, String.toList_ofList, hpairs]
  rfl

/-- A packet of pairs and junk writes the report that has, for each key, the value of its last pair and
nothing else. -/
theorem packet_report (items : List Item) (blanks : List Char) (hitems : ∀ i ∈ items, i.WellFormed)
    (hlead : ∀ i ∈ items.head?, i.Leads) (hblank : ∀ c ∈ blanks, isBlank c = true) :
    let t := ofPacket (packet items blanks)
    t.entries.Pairwise (fun a b => a.1 < b.1) ∧
      ∀ key, t.get? key = (valuesOf key (items.filterMap Item.pair?)).getLast? ∧
        ∀ value, (key, value) ∈ t.entries ↔ t.get? key = some value := by
  intro t
  have ht : t = report (items.filterMap Item.pair?) := ofPacket_packet hitems hlead hblank
  have hascending : t.Ascending := ht ▸ ascending_report _
  exact ⟨hascending, fun key => ⟨ht ▸ get?_report _ key, fun value => hascending.mem_iff⟩⟩

/-- A key that is written twice, a value with a colon and white space, and junk of both kinds. -/
theorem packet_report_twice :
    let items : List Item :=
      [.pair "bat" "87", .junk " mid", .pair " t" " 1:2 ", .junk ":0", .pair "bat" "86"]
    let blanks := ['\r', '\n']
    (∀ i ∈ items, i.WellFormed) ∧ (∀ i ∈ items.head?, i.Leads) ∧ (∀ c ∈ blanks, isBlank c = true) ∧
      (ofPacket (packet items blanks)).get? "bat" = some "86" ∧
      (ofPacket (packet items blanks)).get? " t" = some " 1:2 " := by
  intro items blanks
  have hitems : ∀ i ∈ items, i.WellFormed := by decide
  have hlead : ∀ i ∈ items.head?, i.Leads := by simp [items, Item.Leads]; decide
  have hblank : ∀ c ∈ blanks, isBlank c = true := by
    intro c hc
    rcases List.mem_pair.1 hc with rfl | rfl <;> rfl
  obtain ⟨-, hvalues⟩ := packet_report items blanks hitems hlead hblank
  exact ⟨hitems, hlead, hblank, (hvalues "bat").1, (hvalues " t").1⟩

end Telemetry
end Quadcopter
