import Mathlib.Data.List.Basic

/-! Bounded reading: the chunks of a body are gathered one by one until the body ends, the
stream breaks, or the next chunk would pass the limit. A break is a chunk that is an error. -/
namespace Chunks

variable {ε α : Type}

/-- How far a body was read: why no further, what is held of it, and how many chunks were taken. -/
structure Reading (ε α : Type) where
  failure : Option ε
  held : List α
  taken : Nat
  deriving DecidableEq

def Reading.result (r : Reading ε α) : Except ε (List α) :=
  match r.failure with
  | none => .ok r.held
  | some error => .error error

theorem Reading.result_eq_ok {r : Reading ε α} {body : List α} :
    r.result = .ok body ↔ r.failure = none ∧ r.held = body := by
  unfold result
  split
  · next finished => simp [finished]
  · next failed => simp [failed]

theorem Reading.result_eq_error {r : Reading ε α} {error : ε} : r.result = .error error ↔ r.failure = some error := by
  unfold result
  split
  · next finished => simp [finished]
  · next failed => simp [failed]

def Reading.after (r : Reading ε α) : Reading ε α := { r with taken := r.taken + 1 }

/-- Reads on from what is held. -/
def read (limit : Nat) (broken excess : ε) (held : List α) : List (Except Unit (List α)) → Reading ε α
  | [] => ⟨none,held,0⟩
  | .error _ :: _ => ⟨some broken,held,1⟩
  | .ok chunk :: rest =>
    if limit < held.length + chunk.length then ⟨some excess,held,1⟩
    else (read limit broken excess (held ++ chunk) rest).after

def gather (limit : Nat) (broken excess : ε) (held : List α) (chunks : List (Except Unit (List α))) :
    Except ε (List α) :=
  (read limit broken excess held chunks).result

def whole (chunks : List (Except Unit (List α))) : List α := chunks.flatMap fun chunk => chunk.toOption.getD []

def Clean (chunks : List (Except Unit (List α))) : Prop := ∀ chunk ∈ chunks, chunk.isOk = true

variable {limit : Nat} {broken excess : ε} {held : List α} {chunks : List (Except Unit (List α))}

@[simp] theorem whole_nil : whole ([] : List (Except Unit (List α))) = [] := rfl

@[simp] theorem whole_cons (chunk : List α) (rest : List (Except Unit (List α))) :
    whole (.ok chunk :: rest) = chunk ++ whole rest := rfl

@[simp] theorem gather_nil : gather limit broken excess held [] = .ok held := rfl

@[simp] theorem gather_break (rest : List (Except Unit (List α))) :
    gather limit broken excess held (.error () :: rest) = .error broken := rfl

theorem gather_cons (chunk : List α) (rest : List (Except Unit (List α))) :
    gather limit broken excess held (.ok chunk :: rest) =
      if limit < held.length + chunk.length then .error excess
      else gather limit broken excess (held ++ chunk) rest := by
  simp only [gather, read]
  split <;> rfl

theorem gather_append (more : List (Except Unit (List α))) : gather limit broken excess held (chunks ++ more) =
    (gather limit broken excess held chunks).bind fun held => gather limit broken excess held more := by
  induction chunks generalizing held with
  | nil => rfl
  | cons chunk rest ih =>
    cases chunk with
    | error => rfl
    | ok chunk =>
      simp only [List.cons_append, gather_cons]
      split
      · rfl
      · exact ih

/-- While it reads it holds all that was carried, and no more than the limit. -/
theorem gather_ok {read : List α} (fits : held.length ≤ limit)
    (finished : gather limit broken excess held chunks = .ok read) :
    read = held ++ whole chunks ∧ read.length ≤ limit := by
  induction chunks generalizing held with
  | nil => cases finished; exact ⟨(List.append_nil _).symm,fits⟩
  | cons chunk rest ih =>
    cases chunk with
    | error => cases finished
    | ok chunk =>
      rw [gather_cons] at finished
      split at finished
      · cases finished
      · next within =>
        obtain ⟨equal,bound⟩ := ih (by rw [List.length_append]; exact Nat.not_lt.mp within) finished
        exact ⟨by rw [equal, whole_cons, List.append_assoc],bound⟩

/-- What is read to its end was never broken. -/
theorem gather_ok_clean {read : List α} (finished : gather limit broken excess held chunks = .ok read) :
    Clean chunks := by
  induction chunks generalizing held with
  | nil => exact fun _ none => absurd none List.not_mem_nil
  | cons chunk rest ih =>
    cases chunk with
    | error => cases finished
    | ok chunk =>
      rw [gather_cons] at finished
      split at finished
      · cases finished
      · exact List.forall_mem_cons.mpr ⟨rfl,ih finished⟩

/-- An unbroken body is read to its end exactly if it fits, however it is cut. -/
theorem gather_clean (clean : Clean chunks) (fits : held.length ≤ limit) :
    gather limit broken excess held chunks =
      if (held ++ whole chunks).length ≤ limit then .ok (held ++ whole chunks) else .error excess := by
  induction chunks generalizing held with
  | nil => rw [whole_nil, List.append_nil, if_pos fits]; rfl
  | cons chunk rest ih =>
    have clean' : Clean rest := fun chunk member => clean chunk (List.mem_cons_of_mem _ member)
    cases chunk with
    | error => cases clean _ List.mem_cons_self
    | ok chunk =>
      simp only [gather_cons, whole_cons, ← List.append_assoc]
      by_cases passes : limit < held.length + chunk.length
      · rw [if_pos passes, if_neg]
        rw [List.length_append, List.length_append]
        omega
      · rw [if_neg passes, ih clean' (by rw [List.length_append]; exact Nat.not_lt.mp passes)]

theorem gather_error {error : ε} (stopped : gather limit broken excess held chunks = .error error) :
    error = broken ∨ error = excess := by
  induction chunks generalizing held with
  | nil => cases stopped
  | cons chunk rest ih =>
    cases chunk with
    | error => cases stopped; exact .inl rfl
    | ok chunk =>
      rw [gather_cons] at stopped
      split at stopped
      · cases stopped; exact .inr rfl
      · exact ih stopped

section Read

/-- A reading to the end, or up to the chunk that it refuses: a break, or the first one that passes the limit. -/
inductive Reads (limit : Nat) (broken excess : ε) (held : List α) :
    List (Except Unit (List α)) → Reading ε α → Prop where
  | ended {chunks : List (Except Unit (List α))} : Clean chunks →
      Reads limit broken excess held chunks ⟨none,held ++ whole chunks,chunks.length⟩
  | broke {before : List (Except Unit (List α))} (after : List (Except Unit (List α))) : Clean before →
      Reads limit broken excess held (before ++ .error () :: after)
        ⟨some broken,held ++ whole before,before.length + 1⟩
  | passed {before : List (Except Unit (List α))} {chunk : List α} (after : List (Except Unit (List α))) :
      Clean before → limit < (held ++ whole before ++ chunk).length →
      Reads limit broken excess held (before ++ .ok chunk :: after)
        ⟨some excess,held ++ whole before,before.length + 1⟩

theorem clean_nil : Clean ([] : List (Except Unit (List α))) := fun _ member => absurd member List.not_mem_nil

theorem clean_cons {chunk : List α} {rest : List (Except Unit (List α))} (clean : Clean rest) :
    Clean (.ok chunk :: rest) := List.forall_mem_cons.mpr ⟨rfl,clean⟩

theorem Reads.after {chunk : List α} {rest : List (Except Unit (List α))} {r : Reading ε α}
    (reads : Reads limit broken excess (held ++ chunk) rest r) :
    Reads limit broken excess held (.ok chunk :: rest) r.after := by
  cases reads with
  | ended clean =>
    rw [List.append_assoc]
    exact .ended (clean_cons clean)
  | broke after clean =>
    rw [List.append_assoc]
    exact .broke after (clean_cons clean)
  | passed after clean passes =>
    rw [List.append_assoc held chunk] at passes ⊢
    exact .passed after (clean_cons clean) passes

theorem read_reads (limit : Nat) (broken excess : ε) (held : List α) (chunks : List (Except Unit (List α))) :
    Reads limit broken excess held chunks (read limit broken excess held chunks) := by
  induction chunks generalizing held with
  | nil =>
    have all := @Reads.ended ε α limit broken excess held [] clean_nil
    rwa [whole_nil, List.append_nil] at all
  | cons chunk rest ih =>
    cases chunk with
    | error =>
      have first := @Reads.broke ε α limit broken excess held [] rest clean_nil
      rwa [whole_nil, List.append_nil] at first
    | ok chunk =>
      unfold read
      split
      · next passes =>
        have first := @Reads.passed ε α limit broken excess held [] chunk rest clean_nil
        rw [whole_nil, List.append_nil] at first
        exact first (by rwa [List.length_append])
      · exact (ih (held ++ chunk)).after

theorem read_fits (fits : held.length ≤ limit) : (read limit broken excess held chunks).held.length ≤ limit := by
  induction chunks generalizing held with
  | nil => exact fits
  | cons chunk rest ih =>
    cases chunk with
    | error => exact fits
    | ok chunk =>
      unfold read
      split
      · exact fits
      · next within => exact ih (by rw [List.length_append]; exact Nat.not_lt.mp within)

/-- Chunks that fit are taken, and the reading goes on from what they carry. -/
theorem read_clean (clean : Clean chunks) (fits : (held ++ whole chunks).length ≤ limit)
    (more : List (Except Unit (List α))) :
    read limit broken excess held (chunks ++ more) =
      { read limit broken excess (held ++ whole chunks) more with
        taken := (read limit broken excess (held ++ whole chunks) more).taken + chunks.length } := by
  induction chunks generalizing held with
  | nil => simp
  | cons chunk rest ih =>
    obtain ⟨good,others⟩ := List.forall_mem_cons.mp clean
    cases chunk with
    | error => cases good
    | ok chunk =>
      rw [whole_cons, ← List.append_assoc] at fits
      have within : ¬limit < held.length + chunk.length := by
        simp only [List.length_append] at fits
        omega
      rw [List.cons_append, read, if_neg within, ih others fits, whole_cons, ← List.append_assoc]
      rfl

/-- A reading that has failed takes nothing more. -/
theorem read_append_failed (failed : (read limit broken excess held chunks).failure ≠ none)
    (more : List (Except Unit (List α))) :
    read limit broken excess held (chunks ++ more) = read limit broken excess held chunks := by
  induction chunks generalizing held with
  | nil => exact absurd rfl failed
  | cons chunk rest ih =>
    cases chunk with
    | error => rfl
    | ok chunk =>
      simp only [List.cons_append, read] at failed ⊢
      split
      · rfl
      · next within =>
        rw [if_neg within] at failed
        rw [ih failed]

end Read

/-- The stream breaks while what it carried before still fits. -/
def Breaks (limit : Nat) (held : List α) (chunks : List (Except Unit (List α))) : Prop :=
  ∃ before after, chunks = before ++ .error () :: after ∧ Clean before ∧ (held ++ whole before).length ≤ limit

theorem gather_broken (fits : held.length ≤ limit) (apart : broken ≠ excess) :
    gather limit broken excess held chunks = .error broken ↔ Breaks limit held chunks := by
  constructor
  · intro stopped
    induction chunks generalizing held with
    | nil => cases stopped
    | cons chunk rest ih =>
      cases chunk with
      | error => exact ⟨[],rest,rfl,fun _ none => absurd none List.not_mem_nil,by simpa using fits⟩
      | ok chunk =>
        rw [gather_cons] at stopped
        split at stopped
        · injection stopped with same
          exact absurd same.symm apart
        · next within =>
          obtain ⟨before,after,rfl,clean,bound⟩ := ih (by rw [List.length_append]; exact Nat.not_lt.mp within) stopped
          refine ⟨.ok chunk :: before,after,rfl,List.forall_mem_cons.mpr ⟨rfl,clean⟩,?_⟩
          rwa [whole_cons, ← List.append_assoc]
  · rintro ⟨before,after,rfl,clean,bound⟩
    rw [gather_append, gather_clean clean fits, if_pos bound]
    rfl

/-- The first chunks of a stream that need not end. -/
def upTo (chunks : Nat → Except Unit (List α)) (n : Nat) : List (Except Unit (List α)) := (List.range n).map chunks

theorem upTo_succ (chunks : Nat → Except Unit (List α)) (n : Nat) :
    upTo chunks (n + 1) = upTo chunks n ++ [chunks n] := by
  rw [upTo, List.range_succ, List.map_append]
  rfl

theorem upTo_add (chunks : Nat → Except Unit (List α)) (n k : Nat) :
    ∃ more, upTo chunks (n + k) = upTo chunks n ++ more := by
  induction k with
  | zero => exact ⟨[],(List.append_nil _).symm⟩
  | succ k ih =>
    obtain ⟨more,equal⟩ := ih
    exact ⟨more ++ [chunks (n + k)],by rw [← Nat.add_assoc, upTo_succ, equal, List.append_assoc]⟩

/-- The first chunk that passes the limit is the last one that is taken, and is not held. -/
theorem read_endless {chunks : Nat → Except Unit (List α)} {n : Nat} (clean : Clean (upTo chunks (n + 1)))
    (fits : (whole (upTo chunks n)).length ≤ limit) (passes : limit < (whole (upTo chunks (n + 1))).length) :
    read limit broken excess [] (upTo chunks n) = ⟨none,whole (upTo chunks n),n⟩ ∧
      ∀ m, n < m → read limit broken excess [] (upTo chunks m) = ⟨some excess,whole (upTo chunks n),n + 1⟩ := by
  have length : (upTo chunks n).length = n := by rw [upTo, List.length_map, List.length_range]
  have before : Clean (upTo chunks n) := fun chunk member =>
    clean chunk (by rw [upTo_succ]; exact List.mem_append_left _ member)
  have on := @read_clean ε α limit broken excess [] (upTo chunks n) before fits
  simp only [length, List.nil_append] at on
  refine ⟨?_,fun m later => ?_⟩
  · have all := on []
    rw [List.append_nil] at all
    rw [all, read, Nat.zero_add]
  · obtain ⟨k,rfl⟩ := Nat.exists_eq_add_of_le later
    obtain ⟨more,equal⟩ := upTo_add chunks (n + 1) k
    have last : read limit broken excess [] (upTo chunks (n + 1)) = ⟨some excess,whole (upTo chunks n),n + 1⟩ := by
      have good := clean (chunks n) (by rw [upTo_succ]; exact List.mem_append_right _ List.mem_cons_self)
      rw [upTo_succ] at passes ⊢
      rw [on]
      cases found : chunks n with
      | error => rw [found] at good; cases good
      | ok chunk =>
        rw [found, whole, List.flatMap_append] at passes
        have grown : limit < (whole (upTo chunks n)).length + chunk.length := by
          simpa [whole, Except.toOption] using passes
        rw [read, if_pos grown, Nat.add_comm]
    rw [equal, read_append_failed (by rw [last]; exact Option.some_ne_none _), last]

end Chunks
