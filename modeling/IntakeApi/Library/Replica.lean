import IntakeApi.Library.Machine
import Mathlib.Data.Set.Insert

/-! A primary and its mirror, as sets of entries held in slots, and the slots the
primary records as mirrored. An entry reaches the mirror only from the primary. -/
namespace Replica

structure State (Slot Entry : Type) where
  primary : Set (Slot × Entry)
  mirror : Set (Slot × Entry)
  recorded : Set Slot

variable {Slot Entry : Type}

/-- What the pair is for: an entry is accepted into a free slot, copied from there,
and recorded once it is copied. A record may be withdrawn; an entry never is. -/
inductive Step (s s' : State Slot Entry) : Prop where
  | accept (slot : Slot) (entry : Entry) (free : ∀ other, (slot,other) ∉ s.primary)
      (primary : s'.primary = insert (slot,entry) s.primary) (mirror : s'.mirror = s.mirror)
      (recorded : s'.recorded = s.recorded)
  | copy (slot : Slot) (entry : Entry) (held : (slot,entry) ∈ s.primary)
      (primary : s'.primary = s.primary) (mirror : s'.mirror = insert (slot,entry) s.mirror)
      (recorded : s'.recorded = s.recorded)
  | record (slot : Slot) (entry : Entry) (copied : (slot,entry) ∈ s.mirror)
      (primary : s'.primary = s.primary) (mirror : s'.mirror = s.mirror)
      (recorded : s'.recorded = insert slot s.recorded)
  | withdraw (primary : s'.primary = s.primary) (mirror : s'.mirror = s.mirror)
      (recorded : s'.recorded ⊆ s.recorded)

/-- The mirror is a copy of part of the primary, a slot holds one entry, and a slot
recorded as mirrored is. -/
structure Coherent (s : State Slot Entry) : Prop where
  single : ∀ slot a b, (slot,a) ∈ s.primary → (slot,b) ∈ s.primary → a = b
  copied : s.mirror ⊆ s.primary
  held : ∀ slot ∈ s.recorded, ∃ entry, (slot,entry) ∈ s.mirror

theorem coherent_empty : Coherent (⟨∅,∅,∅⟩ : State Slot Entry) :=
  ⟨fun _ _ _ member => member.elim,Set.empty_subset _,fun _ member => member.elim⟩

theorem Step.coherent {s s' : State Slot Entry} (step : Step s s') (coherent : Coherent s) :
    Coherent s' := by
  obtain ⟨single,copied,held⟩ := coherent
  cases step with
  | accept slot entry free primary mirror recorded =>
    refine ⟨?_,?_,?_⟩
    · intro other a b ha hb
      rw [primary] at ha hb
      rcases ha with ha | ha <;> rcases hb with hb | hb
      · exact (Prod.ext_iff.mp ha).2.trans (Prod.ext_iff.mp hb).2.symm
      · cases ha; exact absurd hb (free b)
      · cases hb; exact absurd ha (free a)
      · exact single other a b ha hb
    · rw [mirror, primary]
      exact copied.trans (Set.subset_insert _ _)
    · rw [mirror, recorded]
      exact held
  | copy slot entry present primary mirror recorded =>
    refine ⟨primary ▸ single,?_,?_⟩
    · rw [mirror, primary]
      exact Set.insert_subset present copied
    · rw [mirror, recorded]
      intro other member
      obtain ⟨entry',here⟩ := held other member
      exact ⟨entry',Set.mem_insert_of_mem _ here⟩
  | record slot entry present primary mirror recorded =>
    refine ⟨primary ▸ single,mirror ▸ primary ▸ copied,?_⟩
    rw [mirror, recorded]
    rintro other (rfl | member)
    · exact ⟨entry,present⟩
    · exact held other member
  | withdraw primary mirror recorded =>
    refine ⟨primary ▸ single,mirror ▸ primary ▸ copied,?_⟩
    rw [mirror]
    exact fun other member => held other (recorded member)

/-- What a recorded slot holds in the primary is what its mirror holds. -/
theorem Coherent.mirrored {s : State Slot Entry} (coherent : Coherent s) {slot : Slot} {entry : Entry}
    (present : (slot,entry) ∈ s.primary) (recorded : slot ∈ s.recorded) : (slot,entry) ∈ s.mirror := by
  obtain ⟨other,copy⟩ := coherent.held slot recorded
  rwa [coherent.single slot entry other present (coherent.copied copy)]

end Replica
