import Mathlib.Data.List.Nodup

/-! Tables with a primary key and a second unique column, both enforced by the
table itself: a table with a repeated value in either cannot be built. -/
namespace Relational

class Keyed (Row : Type) (Id Key : outParam Type) where
  id : Row → Id
  key : Row → Key

structure Table (Row : Type) {Id Key : Type} [Keyed Row Id Key] where
  rows : List Row
  ids : (rows.map Keyed.id).Nodup
  keys : (rows.map Keyed.key).Nodup

namespace Table

variable {Row Id Key : Type} [Keyed Row Id Key]

instance : Membership Row (Table Row) := ⟨fun table row => row ∈ table.rows⟩

theorem mem_rows {table : Table Row} {row : Row} : row ∈ table ↔ row ∈ table.rows := Iff.rfl

def empty : Table Row := ⟨[], by simp, by simp⟩

@[simp] theorem not_mem_empty (row : Row) : row ∉ (empty : Table Row) := by
  simp [mem_rows, empty]

theorem eq_of_id {table : Table Row} {a b : Row} (ha : a ∈ table) (hb : b ∈ table)
    (same : Keyed.id a = Keyed.id b) : a = b :=
  List.inj_on_of_nodup_map table.ids ha hb same

theorem eq_of_key {table : Table Row} {a b : Row} (ha : a ∈ table) (hb : b ∈ table)
    (same : Keyed.key a = Keyed.key b) : a = b :=
  List.inj_on_of_nodup_map table.keys ha hb same

def insert (table : Table Row) (row : Row) (id : ∀ other ∈ table, Keyed.id other ≠ Keyed.id row)
    (key : ∀ other ∈ table, Keyed.key other ≠ Keyed.key row) : Table Row where
  rows := row :: table.rows
  ids := by
    simp only [List.map_cons, List.nodup_cons, List.mem_map, not_exists, not_and]
    exact ⟨id, table.ids⟩
  keys := by
    simp only [List.map_cons, List.nodup_cons, List.mem_map, not_exists, not_and]
    exact ⟨key, table.keys⟩

@[simp] theorem mem_insert {table : Table Row} {row other : Row} {id key} :
    other ∈ table.insert row id key ↔ other = row ∨ other ∈ table := by
  simp [mem_rows, insert]

/-- An `UPDATE` whose changes leave both unique columns alone. -/
def update (table : Table Row) (selected : Row → Bool) (change : Row → Row)
    (id : ∀ row, Keyed.id (change row) = Keyed.id row)
    (key : ∀ row, Keyed.key (change row) = Keyed.key row) : Table Row where
  rows := table.rows.map fun row => if selected row then change row else row
  ids := by
    have same : (table.rows.map fun row => if selected row then change row else row).map Keyed.id =
        table.rows.map (@Keyed.id Row Id Key _) := by
      rw [List.map_map]
      apply List.map_congr_left
      intro row _; simp only [Function.comp]; split <;> simp [id]
    rw [same]; exact table.ids
  keys := by
    have same : (table.rows.map fun row => if selected row then change row else row).map Keyed.key =
        table.rows.map (@Keyed.key Row Id Key _) := by
      rw [List.map_map]
      apply List.map_congr_left
      intro row _; simp only [Function.comp]; split <;> simp [key]
    rw [same]; exact table.keys

theorem mem_update {table : Table Row} {selected : Row → Bool} {change : Row → Row} {id key}
    {row : Row} : row ∈ table.update selected change id key ↔
      ∃ old ∈ table, (if selected old then change old else old) = row := by
  simp [mem_rows, update]

theorem update_idle {table : Table Row} {selected : Row → Bool} {change : Row → Row} {id key}
    (idle : ∀ row ∈ table, selected row = true → change row = row) :
    table.update selected change id key = table := by
  have same : table.rows.map (fun row => if selected row then change row else row) = table.rows := by
    refine (List.map_congr_left fun row member => ?_).trans (List.map_id _)
    split
    · next chosen => exact idle row member chosen
    · rfl
  obtain ⟨rows,ids,keys⟩ := table
  unfold update
  congr

def count (table : Table Row) (selected : Row → Bool) : Nat := table.rows.countP selected

theorem exists_of_count {table : Table Row} {selected : Row → Bool}
    (positive : 0 < table.count selected) : ∃ row ∈ table, selected row = true :=
  List.countP_pos_iff.mp positive

/-- A condition that pins the primary key selects at most one row. -/
theorem count_le_one {table : Table Row} {selected : Row → Bool} (id : Id)
    (pinned : ∀ row, selected row = true → Keyed.id row = id) : table.count selected ≤ 1 := by
  rw [count, List.countP_eq_length_filter]
  have distinct : ((table.rows.filter selected).map Keyed.id).Nodup :=
    (List.filter_sublist.map _).nodup table.ids
  have constant : ∀ x ∈ (table.rows.filter selected).map (@Keyed.id Row Id Key _), x = id := by
    intro x member
    obtain ⟨row,inside,rfl⟩ := List.mem_map.mp member
    exact pinned row (List.mem_filter.mp inside).2
  rw [List.eq_replicate_of_mem constant, List.nodup_replicate] at distinct
  simpa using distinct

theorem count_eq_one {table : Table Row} {selected : Row → Bool} {row : Row} (member : row ∈ table)
    (chosen : selected row = true)
    (pinned : ∀ other, selected other = true → Keyed.id other = Keyed.id row) :
    table.count selected = 1 := by
  have lower : 0 < table.count selected := List.countP_pos_iff.mpr ⟨row,member,chosen⟩
  have upper : table.count selected ≤ 1 := count_le_one _ pinned
  omega

/-- Of two conditions that exclude each other, a row meets at most one. -/
theorem count_or {table : Table Row} {p q : Row → Bool}
    (disjoint : ∀ row, p row = true → q row = false) :
    table.count (fun row => p row || q row) = table.count p + table.count q := by
  simp only [count]
  induction table.rows with
  | nil => rfl
  | cons row rest ih =>
    simp only [List.countP_cons, ih]
    cases here : p row with
    | false =>
      cases q row <;> simp
      omega
    | true => simp [disjoint row here]; omega

section Lookup

variable [DecidableEq Key]

/-- `INSERT … ON CONFLICT (key) DO NOTHING`: a taken key inserts nothing, a taken
primary key is an error. -/
def insertOrIgnore [DecidableEq Id] (table : Table Row) (row : Row) : Except Unit (Option (Table Row)) :=
  if taken : ∃ other ∈ table.rows, Keyed.key other = Keyed.key row then .ok none
  else if clash : ∃ other ∈ table.rows, Keyed.id other = Keyed.id row then .error ()
  else .ok (some (table.insert row (fun other member same => clash ⟨other,member,same⟩)
    (fun other member same => taken ⟨other,member,same⟩)))

theorem insertOrIgnore_none [DecidableEq Id] {table : Table Row} {row : Row} :
    table.insertOrIgnore row = .ok none ↔ ∃ other ∈ table, Keyed.key other = Keyed.key row := by
  unfold insertOrIgnore
  split
  · next taken => simpa [mem_rows] using taken
  · next free => split <;> simpa [mem_rows] using free

theorem insertOrIgnore_some [DecidableEq Id] {table next : Table Row} {row : Row}
    (inserted : table.insertOrIgnore row = .ok (some next)) :
    ∃ id key, next = table.insert row id key := by
  unfold insertOrIgnore at inserted
  split at inserted
  · cases inserted
  · split at inserted
    · cases inserted
    · simp only [Except.ok.injEq, Option.some.injEq] at inserted
      exact ⟨_,_,inserted.symm⟩

theorem insertOrIgnore_fresh [DecidableEq Id] {table : Table Row} {row : Row}
    (id : ∀ other ∈ table, Keyed.id other ≠ Keyed.id row)
    (key : ∀ other ∈ table, Keyed.key other ≠ Keyed.key row) :
    table.insertOrIgnore row = .ok (some (table.insert row id key)) := by
  have free : ¬∃ other ∈ table.rows, Keyed.key other = Keyed.key row :=
    fun ⟨other,member,same⟩ => key other member same
  have clear : ¬∃ other ∈ table.rows, Keyed.id other = Keyed.id row :=
    fun ⟨other,member,same⟩ => id other member same
  simp only [insertOrIgnore, dif_neg free, dif_neg clear]

def findKey (table : Table Row) (key : Key) : Option Row :=
  table.rows.find? fun row => Keyed.key row = key

theorem findKey_some {table : Table Row} {key : Key} {row : Row} :
    table.findKey key = some row ↔ row ∈ table ∧ Keyed.key row = key := by
  constructor
  · intro found
    exact ⟨List.mem_of_find?_eq_some found, by simpa using List.find?_some found⟩
  · rintro ⟨member,rfl⟩
    obtain ⟨other,found⟩ : ∃ other, table.findKey (Keyed.key row) = some other :=
      Option.isSome_iff_exists.mp (List.find?_isSome.mpr ⟨row,member,by simp⟩)
    have same : Keyed.key other = Keyed.key row := by simpa using List.find?_some found
    rwa [eq_of_key (List.mem_of_find?_eq_some found) member same] at found

theorem findKey_none {table : Table Row} {key : Key} :
    table.findKey key = none ↔ ∀ row ∈ table, Keyed.key row ≠ key := by
  simp [findKey, mem_rows]

end Lookup

/-- Every row of one table lives on in another, changed at most as `R` allows. -/
def Retains (R : Row → Row → Prop) (old new : Table Row) : Prop :=
  ∀ row ∈ old, ∃ row' ∈ new, R row row'

theorem Retains.refl {R : Row → Row → Prop} (reflexive : ∀ row, R row row) (table : Table Row) :
    Retains R table table := fun row member => ⟨row,member,reflexive row⟩

theorem Retains.trans {R : Row → Row → Prop} (transitive : ∀ a b c, R a b → R b c → R a c)
    {a b c : Table Row} (first : Retains R a b) (second : Retains R b c) : Retains R a c := by
  intro row member
  obtain ⟨row',member',related⟩ := first row member
  obtain ⟨row'',member'',related'⟩ := second row' member'
  exact ⟨row'',member'',transitive _ _ _ related related'⟩

theorem retains_insert {R : Row → Row → Prop} (reflexive : ∀ row, R row row) {table : Table Row}
    {row : Row} {id key} : Retains R table (table.insert row id key) :=
  fun other member => ⟨other,mem_insert.mpr (.inr member),reflexive other⟩

theorem retains_update {R : Row → Row → Prop} (reflexive : ∀ row, R row row) {table : Table Row}
    {selected : Row → Bool} {change : Row → Row} {id key}
    (changed : ∀ row, selected row = true → R row (change row)) :
    Retains R table (table.update selected change id key) := by
  intro row member
  refine ⟨_,mem_update.mpr ⟨row,member,rfl⟩,?_⟩
  split
  · next chosen => exact changed row chosen
  · exact reflexive row

/-- Two tables hold the same rows, outside a region. -/
def Agree (region : Row → Prop) (a b : Table Row) : Prop := ∀ row, ¬region row → (row ∈ a ↔ row ∈ b)

namespace Agree

variable {region : Row → Prop} {a b : Table Row}

theorem refl (table : Table Row) : Agree region table table := fun _ _ => Iff.rfl

theorem symm (agree : Agree region a b) : Agree region b a := fun row outside => (agree row outside).symm

theorem trans {c : Table Row} (first : Agree region a b) (second : Agree region b c) : Agree region a c :=
  fun row outside => (first row outside).trans (second row outside)

/-- A condition on rows outside the region selects the same rows of both. -/
theorem filter (agree : Agree region a b) {selected : Row → Bool}
    (outside : ∀ row, selected row = true → ¬region row) :
    (a.rows.filter selected).Perm (b.rows.filter selected) := by
  rw [List.perm_ext_iff_of_nodup (a.ids.of_map.filter _) (b.ids.of_map.filter _)]
  intro row
  simp only [List.mem_filter]
  exact and_congr_left fun chosen => agree row (outside row chosen)

theorem count (agree : Agree region a b) {selected : Row → Bool}
    (outside : ∀ row, selected row = true → ¬region row) : a.count selected = b.count selected := by
  rw [Table.count, Table.count, List.countP_eq_length_filter, List.countP_eq_length_filter]
  exact (agree.filter outside).length_eq

/-- A condition that selects at most one row of each finds the same one. -/
theorem find (agree : Agree region a b) {selected : Row → Bool} {id : Id}
    (outside : ∀ row, selected row = true → ¬region row)
    (pinned : ∀ row, selected row = true → Keyed.id row = id) :
    a.rows.find? selected = b.rows.find? selected := by
  have found {table : Table Row} {row : Row} :
      table.rows.find? selected = some row ↔ row ∈ table ∧ selected row = true := by
    constructor
    · intro found
      exact ⟨List.mem_of_find?_eq_some found,List.find?_some found⟩
    · rintro ⟨member,chosen⟩
      obtain ⟨other,found⟩ := Option.isSome_iff_exists.mp (List.find?_isSome.mpr ⟨row,member,chosen⟩)
      have same : Keyed.id other = Keyed.id row :=
        (pinned other (List.find?_some found)).trans (pinned row chosen).symm
      rwa [eq_of_id (List.mem_of_find?_eq_some found) member same] at found
  ext row
  rw [found, found]
  exact and_congr_left fun chosen => agree row (outside row chosen)

/-- An `UPDATE` of rows outside the region, which leaves them there. -/
theorem update (agree : Agree region a b) {selected : Row → Bool} {change : Row → Row} {id key}
    (outside : ∀ row, selected row = true → ¬region row) :
    Agree region (a.update selected change id key) (b.update selected change id key) := by
  intro row clear
  rw [mem_update, mem_update]
  refine exists_congr fun old => and_congr_left fun changed => agree old ?_
  split at changed
  · next chosen => exact outside old chosen
  · exact changed ▸ clear

/-- What changes only rows of the region leaves the rest. -/
theorem updated {table : Table Row} {selected : Row → Bool} {change : Row → Row} {id key}
    (inside : ∀ row ∈ table, selected row = true → region row ∧ region (change row)) :
    Agree region table (table.update selected change id key) := by
  intro row clear
  rw [mem_update]
  constructor
  · intro member
    exact ⟨row,member,if_neg fun chosen => clear (inside row member chosen).1⟩
  · rintro ⟨old,member,rfl⟩
    split
    · next chosen =>
      rw [if_pos chosen] at clear
      exact (clear (inside old member chosen).2).elim
    · exact member

end Agree

section AgreeKeys

variable [DecidableEq Key] {region : Row → Prop} {a b : Table Row}

theorem Agree.findKey (agree : Agree region a b) {key : Key} (outside : ∀ row, Keyed.key row = key → ¬region row) :
    a.findKey key = b.findKey key := by
  ext row
  rw [findKey_some, findKey_some]
  exact and_congr_left fun same => agree row (outside row same)

/-- An insertion whose key and id lie outside the region. -/
theorem Agree.insertOrIgnore [DecidableEq Id] (agree : Agree region a b) {row : Row}
    (key : ∀ other, Keyed.key other = Keyed.key row → ¬region other)
    (id : ∀ other, Keyed.id other = Keyed.id row → ¬region other) :
    (a.insertOrIgnore row = .error () ∧ b.insertOrIgnore row = .error ()) ∨
    (a.insertOrIgnore row = .ok none ∧ b.insertOrIgnore row = .ok none) ∨
    ∃ a' b', a.insertOrIgnore row = .ok (some a') ∧ b.insertOrIgnore row = .ok (some b') ∧
      Agree region a' b' := by
  have keys : (∃ other ∈ a.rows, Keyed.key other = Keyed.key row) ↔ ∃ other ∈ b.rows, Keyed.key other = Keyed.key row :=
    exists_congr fun other => and_congr_left fun same => agree other (key other same)
  have ids : (∃ other ∈ a.rows, Keyed.id other = Keyed.id row) ↔ ∃ other ∈ b.rows, Keyed.id other = Keyed.id row :=
    exists_congr fun other => and_congr_left fun same => agree other (id other same)
  by_cases taken : ∃ other ∈ b.rows, Keyed.key other = Keyed.key row
  · exact .inr (.inl ⟨insertOrIgnore_none.mpr (keys.mpr taken),insertOrIgnore_none.mpr taken⟩)
  · have free := mt keys.mp taken
    by_cases clash : ∃ other ∈ b.rows, Keyed.id other = Keyed.id row
    · refine .inl ⟨?_,?_⟩
      · rw [Table.insertOrIgnore, dif_neg free, dif_pos (ids.mpr clash)]
      · rw [Table.insertOrIgnore, dif_neg taken, dif_pos clash]
    · have clear := mt ids.mp clash
      refine .inr (.inr ⟨_,_,insertOrIgnore_fresh (fun other member same => clear ⟨other,member,same⟩)
        (fun other member same => free ⟨other,member,same⟩),
        insertOrIgnore_fresh (fun other member same => clash ⟨other,member,same⟩)
        (fun other member same => taken ⟨other,member,same⟩),?_⟩)
      intro other outside
      rw [mem_insert, mem_insert]
      exact or_congr_right (agree other outside)

end AgreeKeys

end Table
end Relational
