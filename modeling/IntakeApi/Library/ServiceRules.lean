import IntakeApi.Library.Service

/-! Rules for runs of a service: what its programs obey holds of every session, and
what every answered call preserves holds of the store and of the log. -/
namespace Service

open Interaction Machine

variable {Call : Type} {Answer : Call → Type} {Env σ Arrival ε α : Type}

namespace Server

variable {server : Server Call Answer Env σ Arrival ε α}

/-- Store and log change only when a call is answered, and then together. -/
theorem Step.quiet_or_answered {w w' : World Call Answer Env σ Arrival ε α} {event : Event Env Arrival}
    (stepped : server.Step w event w') :
    (w'.store = w.store ∧ w'.log = w.log) ∨
    ∃ i arrival request next env, event = .advance i env ∧
      w.sessions[i]? = some ⟨arrival,.running (.call request next)⟩ ∧
      w' = w.advance i arrival env request next (server.respond env request w.store).1
        (server.respond env request w.store).2 := by
  cases stepped with
  | arrive => exact .inl ⟨rfl,rfl⟩
  | advance env here => exact .inr ⟨_,_,_,_,env,rfl,here,rfl⟩
  | reply => exact .inl ⟨rfl,rfl⟩
  | cancel => exact .inl ⟨rfl,rfl⟩

/-- An invariant of store and log needs to be checked only for answered calls. -/
theorem state_invariant {initial : σ} {P : σ → List (Entry Call Answer Env σ) → Prop}
    {w : World Call Answer Env σ Arrival ε α} (reachable : server.Reachable initial w)
    (init : P initial [])
    (answered : ∀ (w : World Call Answer Env σ Arrival ε α) i arrival request next env,
      server.Reachable initial w → w.sessions[i]? = some ⟨arrival,.running (.call request next)⟩ →
      P w.store w.log → P (server.respond env request w.store).2
        (⟨i,⟨request,(server.respond env request w.store).1⟩,env,w.store⟩ :: w.log)) :
    P w.store w.log := by
  apply @Machine.Reachable.invariant_of_reachable _ _ server.Step _ _ (fun w => P w.store w.log)
    reachable init
  intro w event w' before holds stepped
  rcases stepped.quiet_or_answered with ⟨store,log⟩ | ⟨i,arrival,request,next,env,-,here,rfl⟩
  · rwa [store, log]
  · exact answered w i arrival request next env before here holds

/-- What holds of each exchange when it happens holds of every entry of the log. -/
theorem log_invariant {initial : σ} {P : Entry Call Answer Env σ → Prop}
    {w : World Call Answer Env σ Arrival ε α} (reachable : server.Reachable initial w)
    (answered : ∀ (w : World Call Answer Env σ Arrival ε α) i arrival request next env,
      server.Reachable initial w → w.sessions[i]? = some ⟨arrival,.running (.call request next)⟩ →
      P ⟨i,⟨request,(server.respond env request w.store).1⟩,env,w.store⟩) :
    ∀ entry ∈ w.log, P entry := by
  apply @state_invariant _ _ _ _ _ _ _ server initial
    (fun _ (log : List (Entry Call Answer Env σ)) => ∀ entry ∈ log, P entry) w reachable
  · intro entry member
    cases member
  · intro w i arrival request next env before here holds entry member
    rcases List.mem_cons.mp member with rfl | member
    · exact answered w i arrival request next env before here
    · exact holds entry member

/-- What each exchange establishes, and every exchange that a guard allows keeps, still
holds of the store in a run whose exchanges are all allowed. -/
theorem log_kept {initial : σ} {G : Entry Call Answer Env σ → Prop}
    {F : Entry Call Answer Env σ → σ → Prop} {w : World Call Answer Env σ Arrival ε α}
    (reachable : server.Reachable initial w) (guarded : ∀ entry ∈ w.log, G entry)
    (established : ∀ (w : World Call Answer Env σ Arrival ε α) i arrival request next env,
      server.Reachable initial w → w.sessions[i]? = some ⟨arrival,.running (.call request next)⟩ →
      F ⟨i,⟨request,(server.respond env request w.store).1⟩,env,w.store⟩
        (server.respond env request w.store).2)
    (kept : ∀ (w : World Call Answer Env σ Arrival ε α) i arrival request next env entry,
      server.Reachable initial w → w.sessions[i]? = some ⟨arrival,.running (.call request next)⟩ →
      G ⟨i,⟨request,(server.respond env request w.store).1⟩,env,w.store⟩ → F entry w.store →
      F entry (server.respond env request w.store).2) : ∀ entry ∈ w.log, F entry w.store := by
  apply @state_invariant _ _ _ _ _ _ _ server initial (fun store (log : List (Entry Call Answer Env σ)) =>
    (∀ entry ∈ log, G entry) → ∀ entry ∈ log, F entry store) w reachable
  · intro _ entry member
    cases member
  · intro w i arrival request next env before here holds allowed entry member
    rcases List.mem_cons.mp member with rfl | member
    · exact established w i arrival request next env before here
    · refine kept w i arrival request next env entry before here (allowed _ List.mem_cons_self) ?_
      exact holds (fun entry member => allowed entry (List.mem_cons_of_mem _ member)) entry member
  · exact guarded

/-- The answers in the log are the ones the service gave. -/
theorem log_sound {initial : σ} {w : World Call Answer Env σ Arrival ε α}
    (reachable : server.Reachable initial w) :
    ∀ entry ∈ w.log, entry.exchange.2 = (server.respond entry.env entry.exchange.1 entry.before).1 :=
  log_invariant reachable fun _ _ _ _ _ _ _ _ => rfl

section Related

variable {R : σ → σ → Prop} (refl : ∀ s, R s s) (trans : ∀ a b c, R a b → R b c → R a c)
variable (each : ∀ env request s, R s (server.respond env request s).2)

include refl each in
theorem step_related {w w' : World Call Answer Env σ Arrival ε α} {event : Event Env Arrival}
    (stepped : server.Step w event w') : R w.store w'.store := by
  rcases stepped.quiet_or_answered with ⟨store,-⟩ | ⟨i,arrival,request,next,env,-,-,rfl⟩
  · rw [store]; exact refl _
  · exact each env request w.store

include refl trans each in
/-- The store has only moved on since each exchange. -/
theorem log_related {initial : σ} {w : World Call Answer Env σ Arrival ε α}
    (reachable : server.Reachable initial w) : ∀ entry ∈ w.log, R (server.after entry) w.store := by
  apply @state_invariant _ _ _ _ _ _ _ server initial
    (fun store (log : List (Entry Call Answer Env σ)) => ∀ entry ∈ log, R (server.after entry) store)
    w reachable
  · intro entry member
    cases member
  · intro w i arrival request next env before here holds entry member
    rcases List.mem_cons.mp member with rfl | member
    · exact refl _
    · exact trans _ _ _ (holds entry member) (each env request w.store)

include refl trans each in
/-- What is logged in the course of a run met a store that had moved on since its start. -/
theorem log_since {w w' : World Call Answer Env σ Arrival ε α} {events : List (Event Env Arrival)}
    (run : Run server.Step w events w') : ∀ entry ∈ w'.log, entry ∈ w.log ∨ R w.store entry.before := by
  have both : R w.store w'.store ∧ ∀ entry ∈ w'.log, entry ∈ w.log ∨ R w.store entry.before := by
    apply @Machine.Run.invariant _ _ server.Step _ _ _ (fun s => R w.store s.store ∧
      ∀ entry ∈ s.log, entry ∈ w.log ∨ R w.store entry.before) _ run
    · exact ⟨refl _,fun entry member => .inl member⟩
    · rintro s event s' ⟨moved,logged⟩ stepped
      refine ⟨trans _ _ _ moved (step_related refl each stepped),?_⟩
      rcases stepped.quiet_or_answered with ⟨-,log⟩ | ⟨i,arrival,request,next,env,-,-,rfl⟩
      · rwa [log]
      · intro entry member
        rcases List.mem_cons.mp member with rfl | member
        · exact .inr moved
        · exact logged entry member
  exact both.2

end Related

/-- What is logged in the course of a run was answered by one of its events. -/
theorem log_events {w w' : World Call Answer Env σ Arrival ε α} {events : List (Event Env Arrival)}
    (run : Run server.Step w events w') :
    ∀ entry ∈ w'.log, entry ∈ w.log ∨ ∃ i, .advance i entry.env ∈ events := by
  induction run with
  | nil => exact fun entry member => .inl member
  | cons stepped run ih =>
    intro entry member
    rcases ih entry member with member | ⟨i,listed⟩
    · rcases stepped.quiet_or_answered with ⟨-,log⟩ | ⟨i,arrival,request,next,env,rfl,-,rfl⟩
      · exact .inl (log ▸ member)
      · rcases List.mem_cons.mp member with rfl | member
        · exact .inr ⟨i,List.mem_cons_self⟩
        · exact .inl member
    · exact .inr ⟨i,List.mem_cons_of_mem _ listed⟩

/-- Every exchange was made in a reachable state, with the older part of the log behind it,
and left another one. -/
theorem log_made {initial : σ} {w : World Call Answer Env σ Arrival ε α}
    (reachable : server.Reachable initial w) :
    ∀ newer entry older, w.log = newer ++ entry :: older →
      (∃ (earlier : World Call Answer Env σ Arrival ε α) (arrival : Arrival)
        (next : Answer entry.exchange.1 → Program Call Answer ε α), server.Reachable initial earlier ∧
        earlier.sessions[entry.session]? = some ⟨arrival,.running (.call entry.exchange.1 next)⟩ ∧
        earlier.store = entry.before ∧ earlier.log = older ∧ Grows earlier w) ∧
      ∃ later, server.Reachable initial later ∧ later.store = server.after entry ∧
        later.log = entry :: older := by
  apply @Machine.Reachable.invariant_of_reachable _ _ server.Step _ _ (fun w => ∀ newer entry older,
    w.log = newer ++ entry :: older →
      (∃ (earlier : World Call Answer Env σ Arrival ε α) (arrival : Arrival)
        (next : Answer entry.exchange.1 → Program Call Answer ε α), server.Reachable initial earlier ∧
        earlier.sessions[entry.session]? = some ⟨arrival,.running (.call entry.exchange.1 next)⟩ ∧
        earlier.store = entry.before ∧ earlier.log = older ∧ Grows earlier w) ∧
      ∃ later, server.Reachable initial later ∧ later.store = server.after entry ∧
        later.log = entry :: older) reachable
  · intro newer entry older empty
    cases newer <;> cases empty
  · intro w event w' before holds stepped newer entry older split
    have grows := server.step_grows w event w' stepped
    rcases stepped.quiet_or_answered with ⟨-,log⟩ | ⟨i,arrival,request,next,env,rfl,here,rfl⟩
    · obtain ⟨⟨earlier,arrival,next,begun,here,store,rest,grown⟩,left⟩ :=
        holds newer entry older (log.symm.trans split)
      exact ⟨⟨earlier,arrival,next,begun,here,store,rest,grows_trans _ _ _ grown grows⟩,left⟩
    · cases newer with
      | nil =>
        injection split with same rest
        subst same rest
        exact ⟨⟨w,arrival,next,before,here,rfl,rfl,grows⟩,_,before.next stepped,rfl,rfl⟩
      | cons newest newer =>
        injection split with _ rest
        obtain ⟨⟨earlier,owner,next,begun,there,store,rest,grown⟩,left⟩ := holds newer entry older rest
        exact ⟨⟨earlier,owner,next,begun,there,store,rest,grows_trans _ _ _ grown grows⟩,left⟩

/-- Every exchange met the store of a reachable state. -/
theorem log_reachable {initial : σ} {w : World Call Answer Env σ Arrival ε α}
    (reachable : server.Reachable initial w) :
    ∀ entry ∈ w.log, ∃ earlier, server.Reachable initial earlier ∧ earlier.store = entry.before := by
  intro entry member
  obtain ⟨newer,older,split⟩ := List.append_of_mem member
  obtain ⟨⟨earlier,-,-,begun,-,store,-⟩,-⟩ := log_made reachable newer entry older split
  exact ⟨earlier,begun,store⟩

/-- Every exchange left the store of a reachable state. -/
theorem log_reached {initial : σ} {w : World Call Answer Env σ Arrival ε α}
    (reachable : server.Reachable initial w) :
    ∀ entry ∈ w.log, ∃ later, server.Reachable initial later ∧ later.store = server.after entry := by
  intro entry member
  obtain ⟨newer,older,split⟩ := List.append_of_mem member
  obtain ⟨-,later,reached,store,-⟩ := log_made reachable newer entry older split
  exact ⟨later,reached,store⟩

section Conformance

variable {asks : Arrival → List (Exchange Call Answer) → Call → Prop}
variable {ends : Arrival → List (Exchange Call Answer) → Except ε α → Prop}

/-- Every session stands at a program that obeys what its request's program obeyed at
first, and only the sessions have entries in the log. -/
structure Conform (asks : Arrival → List (Exchange Call Answer) → Call → Prop)
    (ends : Arrival → List (Exchange Call Answer) → Except ε α → Prop)
    (w : World Call Answer Env σ Arrival ε α) : Prop where
  sessions : ∀ (i : Nat) (session : Session Call Answer Arrival ε α), w.sessions[i]? = some session →
    ∃ program : Program Call Answer ε α, session.progress.At program ∧
      program.Obeys (asks session.arrival) (ends session.arrival) (w.history i)
  entries : ∀ entry ∈ w.log, entry.session < w.sessions.length

theorem history_empty {w : World Call Answer Env σ Arrival ε α} {i : Nat}
    (entries : ∀ entry ∈ w.log, entry.session < w.sessions.length) (beyond : w.sessions.length ≤ i) :
    w.history i = [] := by
  have none : (w.log.filter fun entry => entry.session = i) = [] := by
    rw [List.filter_eq_nil_iff]
    intro entry member
    have bound := entries entry member
    simp only [decide_eq_true_eq]
    omega
  rw [World.history, none, List.map_nil]

/-- A step of one session keeps the others as they are. -/
theorem set_sessions {w : World Call Answer Env σ Arrival ε α} {i : Nat} {arrival : Arrival}
    {progress : Progress Call Answer ε α} {P : Nat → Session Call Answer Arrival ε α → Prop}
    (others : ∀ j session, w.sessions[j]? = some session → j ≠ i → P j session)
    (here : P i ⟨arrival,progress⟩) (j : Nat) (session : Session Call Answer Arrival ε α)
    (found : (w.sessions.set i ⟨arrival,progress⟩)[j]? = some session) : P j session := by
  by_cases same : i = j
  · subst same
    rw [List.getElem?_set] at found
    split at found
    · split at found
      · cases found; exact here
      · cases found
    · contradiction
  · rw [List.getElem?_set_ne same] at found
    exact others j session found (Ne.symm same)

theorem conform (each : ∀ arrival, (server.handle arrival).Obeys (asks arrival) (ends arrival) [])
    {initial : σ} {w : World Call Answer Env σ Arrival ε α} (reachable : server.Reachable initial w) :
    Conform asks ends w := by
  apply Machine.Reachable.invariant reachable
  · refine ⟨?_,?_⟩
    · intro i session found
      simp [World.start] at found
    · intro entry member
      cases member
  · intro w event w' before stepped
    obtain ⟨sessions,entries⟩ := before
    cases stepped with
    | arrive arrival =>
      refine ⟨?_,?_⟩
      · intro i session found
        simp only [World.arrive] at found
        rw [List.getElem?_append] at found
        split at found
        · exact sessions i session found
        · next beyond =>
          rw [List.getElem?_singleton] at found
          split at found
          case isFalse => cases found
          cases found
          have empty : w.history i = [] := history_empty entries (by omega)
          refine ⟨server.handle arrival,rfl,?_⟩
          change (server.handle arrival).Obeys _ _ (w.history i)
          rw [empty]
          exact each arrival
      · intro entry member
        have bound := entries entry member
        simp only [World.arrive, List.length_append, List.length_cons, List.length_nil]
        omega
    | @advance i arrival request next env here =>
      obtain ⟨_,rfl,obeys⟩ := sessions i _ here
      refine ⟨set_sessions ?_ ?_,?_⟩
      · intro j session found distinct
        have kept := sessions j session found
        have same : (w.advance i arrival env request next (server.respond env request w.store).1
            (server.respond env request w.store).2).history j = w.history j := by
          simp [World.history, World.advance, Ne.symm distinct]
        rwa [same]
      · have grown : (w.advance i arrival env request next (server.respond env request w.store).1
            (server.respond env request w.store).2).history i =
              ⟨request,(server.respond env request w.store).1⟩ :: w.history i := by
          simp [World.history, World.advance]
        refine ⟨_,rfl,?_⟩
        rw [grown]
        exact obeys.2 _
      · intro entry member
        have bound := (List.getElem?_eq_some_iff.mp here).1
        simp only [World.advance, List.length_set]
        rcases List.mem_cons.mp member with rfl | member
        · exact bound
        · exact entries entry member
    | @reply i arrival result here =>
      obtain ⟨_,rfl,obeys⟩ := sessions i _ here
      refine ⟨set_sessions (fun j session found _ => sessions j session found) ⟨_,rfl,obeys⟩,?_⟩
      intro entry member
      simpa only [World.settle, List.length_set] using entries entry member
    | @cancel i arrival program here =>
      obtain ⟨_,rfl,obeys⟩ := sessions i _ here
      refine ⟨set_sessions (fun j session found _ => sessions j session found) ⟨_,trivial,obeys⟩,?_⟩
      intro entry member
      simpa only [World.settle, List.length_set] using entries entry member

/-- A call is made only after a history that allows it. -/
theorem asked (each : ∀ arrival, (server.handle arrival).Obeys (asks arrival) (ends arrival) [])
    {initial : σ} {w : World Call Answer Env σ Arrival ε α} (reachable : server.Reachable initial w)
    {i : Nat} {arrival : Arrival} {request : Call} {next : Answer request → Program Call Answer ε α}
    (here : w.sessions[i]? = some ⟨arrival,.running (.call request next)⟩) :
    asks arrival (w.history i) request := by
  obtain ⟨_,rfl,obeys⟩ := (conform each reachable).sessions i _ here
  exact obeys.1

theorem ended (each : ∀ arrival, (server.handle arrival).Obeys (asks arrival) (ends arrival) [])
    {initial : σ} {w : World Call Answer Env σ Arrival ε α} (reachable : server.Reachable initial w)
    {i : Nat} {arrival : Arrival} {result : Except ε α}
    (here : w.sessions[i]? = some ⟨arrival,.replied result⟩) : ends arrival (w.history i) result := by
  obtain ⟨_,rfl,obeys⟩ := (conform each reachable).sessions i _ here
  exact obeys

/-- Wherever a session stands, its history leads to a call or to an end. -/
theorem traced (each : ∀ arrival, (server.handle arrival).Obeys (asks arrival) (ends arrival) [])
    {initial : σ} {w : World Call Answer Env σ Arrival ε α} (reachable : server.Reachable initial w)
    {i : Nat} {session : Session Call Answer Arrival ε α} (here : w.sessions[i]? = some session) :
    (∃ request next, asks session.arrival (w.history i) request ∧
      session.progress.At (.call request next)) ∨
    ∃ result, ends session.arrival (w.history i) result ∧ session.progress.At (.done result) := by
  obtain ⟨program,stands,obeys⟩ := (conform each reachable).sessions i session here
  cases program with
  | done result => exact .inr ⟨result,obeys,stands⟩
  | call request next => exact .inl ⟨request,next,obeys.1,stands⟩

/-- The calls of a session that arrives in the course of a run all meet a store that has
moved on since the run's start. -/
theorem arrived_since {R : σ → σ → Prop} (refl : ∀ s, R s s) (trans : ∀ a b c, R a b → R b c → R a c)
    (moves : ∀ env request s, R s (server.respond env request s).2)
    (each : ∀ arrival, (server.handle arrival).Obeys (asks arrival) (ends arrival) [])
    {initial : σ} {w w' : World Call Answer Env σ Arrival ε α} {events : List (Event Env Arrival)}
    (reachable : server.Reachable initial w) (run : Run server.Step w events w') {i : Nat}
    (later : w.sessions.length ≤ i) : ∀ entry ∈ w'.log, entry.session = i → R w.store entry.before := by
  intro entry logged own
  rcases log_since refl trans moves run entry logged with old | moved
  · have bound := (conform each reachable).entries entry old
    omega
  · exact moved

/-- Every entry of the log belongs to a session whose request allowed its call then. -/
theorem logged (each : ∀ arrival, (server.handle arrival).Obeys (asks arrival) (ends arrival) [])
    {initial : σ} {w : World Call Answer Env σ Arrival ε α} (reachable : server.Reachable initial w) :
    ∀ entry ∈ w.log, ∃ session, w.sessions[entry.session]? = some session ∧
      ∃ newer earlier, w.history entry.session = newer ++ entry.exchange :: earlier ∧
        asks session.arrival earlier entry.exchange.1 := by
  apply @Machine.Reachable.invariant_of_reachable _ _ server.Step _ _ (fun w => ∀ entry ∈ w.log,
    ∃ session, w.sessions[entry.session]? = some session ∧
      ∃ newer earlier, w.history entry.session = newer ++ entry.exchange :: earlier ∧
        asks session.arrival earlier entry.exchange.1) reachable
  · intro entry member
    cases member
  · intro w event w' before holds stepped entry member
    have grows := server.step_grows w event w' stepped
    have old (logged : entry ∈ w.log) : ∃ session, w'.sessions[entry.session]? = some session ∧
        ∃ newer earlier, w'.history entry.session = newer ++ entry.exchange :: earlier ∧
          asks session.arrival earlier entry.exchange.1 := by
      obtain ⟨session,here,newer,earlier,history,allowed⟩ := holds entry logged
      obtain ⟨session',here',same⟩ := grows.arrivals _ session here
      obtain ⟨newest,grown⟩ := grows.history entry.session
      exact ⟨session',here',newest ++ newer,earlier,by rw [grown, history, List.append_assoc],
        same ▸ allowed⟩
    rcases stepped.quiet_or_answered with ⟨-,log⟩ | ⟨i,arrival,request,next,env,-,here,rfl⟩
    · rw [log] at member
      exact old member
    · rcases List.mem_cons.mp member with rfl | member
      · obtain ⟨session',here',same⟩ := grows.arrivals i _ here
        refine ⟨session',here',[],w.history i,?_,?_⟩
        · simp [World.history, World.advance]
        · rw [same]
          exact asked each before here
      · exact old member

end Conformance
end Server
end Service
