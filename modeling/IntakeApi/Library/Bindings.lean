import Mathlib.Data.List.Forall2
import Mathlib.Data.List.Induction
import Mathlib.Data.List.Pairwise
import Mathlib.Data.List.Sort

/-! Lists of bindings, which denote a map by the last or by the first binding of a key. -/
namespace Bindings

variable {K V W : Type} [DecidableEq K]

def valuesOf (pairs : List (K × V)) (key : K) : List V :=
  (pairs.filter fun pair => pair.1 = key).map Prod.snd

def lastOf (pairs : List (K × V)) (key : K) : Option V := (valuesOf pairs key).getLast?

def firstOf (pairs : List (K × V)) (key : K) : Option V := (valuesOf pairs key).head?

section Values

variable {pairs others : List (K × V)} {key : K} {v : V}

@[simp] theorem valuesOf_nil : valuesOf ([] : List (K × V)) key = [] := rfl

theorem valuesOf_cons_same : valuesOf ((key,v) :: pairs) key = v :: valuesOf pairs key := by
  simp [valuesOf]

theorem valuesOf_cons_other {pair : K × V} (apart : pair.1 ≠ key) :
    valuesOf (pair :: pairs) key = valuesOf pairs key := by
  simp [valuesOf, apart]

theorem valuesOf_append : valuesOf (pairs ++ others) key = valuesOf pairs key ++ valuesOf others key := by
  simp [valuesOf]

theorem firstOf_append : firstOf (pairs ++ others) key = (firstOf pairs key).or (firstOf others key) := by
  rw [firstOf, valuesOf_append, List.head?_append, firstOf, firstOf]

theorem mem_valuesOf : v ∈ valuesOf pairs key ↔ (key,v) ∈ pairs := by
  simp [valuesOf]

theorem valuesOf_map (given : V → W) :
    valuesOf (pairs.map fun pair => (pair.1,given pair.2)) key = (valuesOf pairs key).map given := by
  simp only [valuesOf, List.filter_map, List.map_map]
  rfl

theorem lastOf_append : lastOf (pairs ++ others) key = (lastOf others key).or (lastOf pairs key) := by
  rw [lastOf, valuesOf_append, List.getLast?_append, lastOf, lastOf]

theorem lastOf_filter (keep : K → Bool) :
    lastOf (pairs.filter fun pair => keep pair.1) key = if keep key then lastOf pairs key else none := by
  have values : valuesOf (pairs.filter fun pair => keep pair.1) key = if keep key then valuesOf pairs key else [] := by
    simp only [valuesOf, List.filter_filter]
    split
    · next kept =>
      congr 1
      refine List.filter_congr fun pair _ => ?_
      by_cases same : pair.1 = key
      · simp [same, kept]
      · simp [same]
    · next dropped =>
      rw [List.map_eq_nil_iff, List.filter_eq_nil_iff]
      intro pair _ both
      simp only [Bool.and_eq_true, decide_eq_true_eq] at both
      exact dropped (both.1 ▸ both.2)
  rw [lastOf, values]
  split
  · rfl
  · rfl

theorem lastOf_map (given : V → W) :
    lastOf (pairs.map fun pair => (pair.1,given pair.2)) key = (lastOf pairs key).map given := by
  rw [lastOf, valuesOf_map, List.getLast?_map, lastOf]

end Values

section Once

variable {α : Type} {lines : List α} {line : α} {nameOf : α → Option K} {f : α → Option (K × V)} {key : K}

/-- Nothing is bound under the name of no line. -/
theorem valuesOf_absent (named : ∀ line ∈ lines, ∀ pair, f line = some pair → nameOf line = some pair.1)
    (absent : key ∉ lines.filterMap nameOf) : valuesOf (lines.filterMap f) key = [] := by
  refine List.eq_nil_iff_forall_not_mem.mpr fun v binds => absent ?_
  obtain ⟨line,there,found⟩ := List.mem_filterMap.mp (mem_valuesOf.mp binds)
  exact List.mem_filterMap.mpr ⟨line,there,named line there _ found⟩

/-- Among lines under different names, what a line under a name binds is all that is bound there. -/
theorem valuesOf_once (named : ∀ line ∈ lines, ∀ pair, f line = some pair → nameOf line = some pair.1)
    (once : (lines.filterMap nameOf).Nodup) (member : line ∈ lines) (name : nameOf line = some key) :
    valuesOf (lines.filterMap f) key = (f line).toList.map Prod.snd := by
  have bound : valuesOf (f line).toList key = (f line).toList.map Prod.snd := by
    cases found : f line with
    | none => rfl
    | some pair =>
      obtain rfl := Option.some.inj ((named line member pair found).symm.trans name)
      exact valuesOf_cons_same
  obtain ⟨before,after,rfl⟩ := List.append_of_mem member
  rw [List.filterMap_append, List.filterMap_cons_some name, List.nodup_append, List.nodup_cons] at once
  obtain ⟨-,⟨later,-⟩,apart⟩ := once
  have first := valuesOf_absent (fun other there => named other (List.mem_append_left _ there))
    fun there => apart key there key List.mem_cons_self rfl
  have last := valuesOf_absent
    (fun other there => named other (List.mem_append_right _ (List.mem_cons_of_mem _ there))) later
  have parts : (before ++ line :: after).filterMap f =
      before.filterMap f ++ ((f line).toList ++ after.filterMap f) := by
    rw [List.filterMap_append, List.filterMap_cons]
    cases f line <;> rfl
  rw [parts, valuesOf_append, valuesOf_append, first, last, bound, List.nil_append, List.append_nil]

end Once

/-- Bindings that are carried out in order leave the last one of a key. -/
theorem foldl_lastOf {S : Type} {view : S → K → Option W} {given : V → W} {step : S → K × V → S}
    (steps : ∀ s pair key, view (step s pair) key = if key = pair.1 then some (given pair.2) else view s key)
    (pairs : List (K × V)) (s : S) (key : K) :
    view (pairs.foldl step s) key = ((lastOf pairs key).map given).or (view s key) := by
  induction pairs using List.reverseRecOn with
  | nil => rfl
  | append_singleton pairs pair ih =>
    rw [List.foldl_append, List.foldl_cons, List.foldl_nil, steps, lastOf, valuesOf_append]
    by_cases same : key = pair.1
    · subst same
      rw [if_pos rfl, valuesOf_cons_same, valuesOf_nil, List.getLast?_concat]
      rfl
    · rw [if_neg same, ih, valuesOf_cons_other (Ne.symm same), valuesOf_nil, List.append_nil, lastOf]

/-- A sorted list ends as the list does just where nothing in it is greater than what is last. -/
theorem getLast?_sorted {V : Type} [PartialOrder V] {values ordered : List V} (same : ordered.Perm values)
    (sorted : ordered.Pairwise (· ≤ ·)) :
    ordered.getLast? = values.getLast? ↔ ∀ last, values.getLast? = some last → ∀ v ∈ values, v ≤ last := by
  have greatest (v last : V) (there : v ∈ ordered) (ends : ordered.getLast? = some last) : v ≤ last := by
    obtain ⟨front,rfl⟩ := List.getLast?_eq_some_iff.mp ends
    have above := sorted.rel_getLast there
    rwa [List.getLast_concat] at above
  constructor
  · intro equal last ends v member
    exact greatest v last (same.mem_iff.mpr member) (equal.trans ends)
  · intro above
    cases ends : values.getLast? with
    | none =>
      rw [List.getLast?_eq_none_iff] at ends
      subst ends
      rw [List.perm_nil.mp same]
      rfl
    | some last =>
      have there : last ∈ ordered := same.mem_iff.mpr (List.mem_of_getLast? ends)
      cases final : ordered.getLast? with
      | none =>
        rw [List.getLast?_eq_none_iff] at final
        rw [final] at there
        cases there
      | some v =>
        have below := above last ends v (same.mem_iff.mp (List.mem_of_getLast? final))
        rw [le_antisymm below (greatest last v there final)]

section Related

theorem forall_mem_iff {α β : Type} {R : α → β → Prop} {P : α → Prop} {Q : β → Prop} {as : List α} {bs : List β}
    (all : List.Forall₂ R as bs) (each : ∀ a b, R a b → (P a ↔ Q b)) : (∀ a ∈ as, P a) ↔ ∀ b ∈ bs, Q b := by
  induction all with
  | nil => simp
  | @cons a b as bs first rest ih => rw [List.forall_mem_cons, List.forall_mem_cons, each a b first, ih]

variable {R : V → W → Prop} {pairs : List (K × V)} {others : List (K × W)}

theorem valuesOf_related (all : List.Forall₂ (fun p q => q.1 = p.1 ∧ R p.2 q.2) pairs others) (key : K) :
    List.Forall₂ R (valuesOf pairs key) (valuesOf others key) := by
  induction all with
  | nil => exact .nil
  | @cons p q pairs others related rest ih =>
    obtain ⟨k,v⟩ := p
    obtain ⟨k',w⟩ := q
    obtain ⟨rfl,both⟩ := related
    by_cases same : k' = key
    · subst same
      rw [valuesOf_cons_same, valuesOf_cons_same]
      exact .cons both ih
    · rw [valuesOf_cons_other same, valuesOf_cons_other same]
      exact ih

/-- Bindings that are related in order leave related last values. -/
theorem lastOf_related (all : List.Forall₂ (fun p q => q.1 = p.1 ∧ R p.2 q.2) pairs others) (key : K) :
    (lastOf pairs key = none ∧ lastOf others key = none) ∨
      ∃ v w, lastOf pairs key = some v ∧ lastOf others key = some w ∧ R v w := by
  rw [lastOf, lastOf, ← List.head?_reverse, ← List.head?_reverse]
  have reversed := List.rel_reverse (valuesOf_related all key)
  cases first : (valuesOf pairs key).reverse with
  | nil =>
    rw [first, List.forall₂_nil_left_iff] at reversed
    exact .inl ⟨rfl,by rw [reversed]; rfl⟩
  | cons v rest =>
    rw [first] at reversed
    cases second : (valuesOf others key).reverse with
    | nil => rw [second] at reversed; cases reversed
    | cons w more =>
      rw [second] at reversed
      cases reversed with
      | cons related _ => exact .inr ⟨v,w,rfl,rfl,related⟩

end Related

end Bindings
