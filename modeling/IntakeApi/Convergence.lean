import IntakeApi.Durability
import IntakeApi.Retry
import IntakeApi.Verification

/-! No state is a dead end: sending old requests again, under new ids and proofs, brings both stores
together, and an upload can be completed as long as it has not expired. -/
namespace IntakeApi

open Interaction Relational Transaction Service

/-- The same submission is sent and let in once more: under its key and with its input, and for an
application by the same caller. Its proof and the id that is drawn for it may be others. -/
def Repeats (contract : Contract) (old new : Arrival) : Prop :=
  ∀ (kind : StoredSubmissionKind) (body : Create kind) (context : SubmissionContext),
    Requested contract old body context → ∃ (body' : Create kind) (context' : SubmissionContext),
      Requested contract new body' context' ∧ body'.input = body.input ∧
      context'.idempotencyKey = context.idempotencyKey ∧ (kind = .application → context'.subject = context.subject)

theorem Repeats.refl {contract : Contract} (arrival : Arrival) : Repeats contract arrival arrival :=
  fun _ body context requested => ⟨body,context,requested,rfl,rfl,fun _ => rfl⟩

/-- One of the requests arrives, or a call is answered at the given clocks. -/
def Resends (arrivals : List Arrival) (env : Env) : Event Env Arrival → Prop
  | .arrive arrival => arrival ∈ arrivals
  | .advance _ met => met = env
  | .reply _ | .cancel _ => False

theorem Resends.mono {arrivals others : List Arrival} {env : Env} {event : Event Env Arrival}
    (resends : Resends arrivals env event) (among : ∀ arrival ∈ arrivals, arrival ∈ others) : Resends others env event := by
  cases event with
  | arrive arrival => exact among arrival resends
  | _ => exact resends

/-- The mirror holds the row, and the primary knows. -/
structure Settled (stores : Stores) {kind : StoredSubmissionKind} (row : Row kind) : Prop where
  copied : (stores .supabase).HoldsCopy row
  marked : (stores .primary).Marked kind row.id

theorem Settled.of_continues {stores : Stores} {kind : StoredSubmissionKind} {old new : Row kind}
    (continues : old.Continues new) : Settled stores new ↔ Settled stores old := by
  have copied : (stores .supabase).HoldsCopy new ↔ (stores .supabase).HoldsCopy old := by
    simp only [Database.HoldsCopy, continues.id, continues.idempotencyKey, continues.payloadSha256]
  constructor
  · rintro ⟨held,marked⟩
    exact ⟨copied.mp held,continues.id ▸ marked⟩
  · rintro ⟨held,marked⟩
    exact ⟨copied.mpr held,continues.id.symm ▸ marked⟩

theorem Database.HoldsCopy.kept {db later : Database} {kind : StoredSubmissionKind} {row : Row kind}
    (held : db.HoldsCopy row) (kept : db.Retains later) : later.HoldsCopy row := by
  obtain ⟨copy,member,id,key,digest⟩ := held
  obtain ⟨copy',there,continues⟩ := kept kind copy member
  exact ⟨copy',there,continues.id.trans id,continues.idempotencyKey.trans key,continues.payloadSha256.trans digest⟩

/-- What a resent request leaves: no new row in the primary, and nothing settled comes undone. -/
structure Mends (old new : Stores) : Prop where
  rewrites : (old .primary).Rewrites (new .primary)
  settled : ∀ {kind : StoredSubmissionKind} (row : Row kind), Settled old row → Settled new row

theorem Database.Rewrites.trans {a b c : Database} (first : a.Rewrites b) (second : b.Rewrites c) :
    a.Rewrites c where
  rows kind row member := by
    obtain ⟨middle,there,continues⟩ := second.rows kind row member
    obtain ⟨before,here,continues'⟩ := first.rows kind middle there
    exact ⟨before,here,continues'.trans continues⟩
  kept := Database.retains_trans _ _ _ first.kept second.kept
  items item member := by
    obtain ⟨middle,there,same⟩ := second.items item member
    obtain ⟨before,here,same'⟩ := first.items middle there
    exact ⟨before,here,same.submissionKind.trans same'.submissionKind,same.submissionId.trans same'.submissionId,
      same.payloadSha256.trans same'.payloadSha256⟩
  items_kept item member := by
    obtain ⟨middle,there,same⟩ := first.items_kept item member
    obtain ⟨later,here,same'⟩ := second.items_kept middle there
    exact ⟨later,here,same'.submissionKind.trans same.submissionKind,same'.submissionId.trans same.submissionId,
      same'.payloadSha256.trans same.payloadSha256⟩

theorem Mends.refl (stores : Stores) : Mends stores stores :=
  ⟨(stores .primary).rewrites_refl,fun _ settled => settled⟩

theorem Mends.trans {a b c : Stores} (first : Mends a b) (second : Mends b c) : Mends a c :=
  ⟨first.rewrites.trans second.rewrites,fun row settled => second.settled row (first.settled row settled)⟩

section Steps

variable {contract : Contract} {w : World} {i : Nat} {arrival : Arrival} {kind : StoredSubmissionKind}
variable {context : SubmissionContext} {body : Create kind} {env : Env}

/-- The calls of an admitted request before its acknowledgement. -/
theorem handle_legs (requested : Requested contract arrival body context) :
    ∃ next : Except DataError (Stored kind) → Handler Receipt,
      handle contract arrival = .call (primaryLeg kind context body) next ∧
      (∀ error, next (.error error) = .done (.error (.ofData error))) ∧
      ∀ stored, ∃ next' : Except DataError (Stored kind) → Handler Receipt,
        next (.ok stored) = .call (mirrorLeg kind context body stored.id) next' ∧
        ∀ other : Stored kind, other.id = stored.id → next' (.ok other) = Creation.finish kind context body stored := by
  rw [handle_create requested.request, requested.admitted]
  refine ⟨_,rfl,fun _ => rfl,fun stored => ⟨_,rfl,fun other same => ?_⟩⟩
  have acceptable : isMirrored stored (.ok other) = true := decide_eq_true same
  change (if isMirrored stored (.ok other) then _ else _ : Handler (Stored kind)) >>= _ = _
  rw [if_pos acceptable]
  rfl

theorem finish_marks (stored : Stored kind) : ∃ next : Except DataError Unit → Handler Receipt,
    Creation.finish kind context body stored = .call (markLeg kind context stored.id) next := by
  cases kind <;> exact ⟨_,rfl⟩

theorem answered_step {call : Call} {next : call.Answer → Handler Receipt} {answer : call.Answer} {stores : Stores}
    (here : w.sessions[i]? = some ⟨arrival,.running (.call call next)⟩)
    (told : respond contract env call w.store = (answer,stores)) :
    ∃ w', (server contract).Step w (.advance i env) w' ∧
      w'.sessions[i]? = some ⟨arrival,.running (next answer)⟩ ∧ w'.store = stores ∧
      w'.sessions.map Session.arrival = w.sessions.map Session.arrival := by
  obtain ⟨bound,-⟩ := List.getElem?_eq_some_iff.mp here
  have stepped : (server contract).Step w (.advance i env) _ := .advance env here
  change (server contract).Step w (.advance i env) (w.advance i arrival env call next
    (respond contract env call w.store).1 (respond contract env call w.store).2) at stepped
  rw [told] at stepped
  exact ⟨_,stepped,List.getElem?_set_self bound,rfl,Server.map_set_arrival here⟩

theorem arrives_answered {first : Except DataError (Stored kind) → Handler Receipt}
    (begun : handle contract arrival = .call (primaryLeg kind context body) first)
    {answer : Except DataError (Stored kind)} {stores : Stores}
    (told : respond contract env (primaryLeg kind context body) w.store = (answer,stores)) :
    ∃ w', Machine.Run (server contract).Step w [.arrive arrival,.advance w.sessions.length env] w' ∧
      w'.sessions[w.sessions.length]? = some ⟨arrival,.running (first answer)⟩ ∧ w'.store = stores ∧
      w'.sessions.map Session.arrival = w.sessions.map Session.arrival ++ [arrival] := by
  have arrived : (server contract).Step w (.arrive arrival) (w.arrive arrival (handle contract arrival)) :=
    .arrive arrival
  rw [begun] at arrived
  have here : (w.arrive arrival (.call (primaryLeg kind context body) first)).sessions[w.sessions.length]? =
      some ⟨arrival,.running (.call (primaryLeg kind context body) first)⟩ := by
    simp [World.arrive]
  obtain ⟨w',asked,here',store,same⟩ := answered_step here told
  refine ⟨w',.cons arrived (.cons asked .nil),here',store,same.trans ?_⟩
  simp [World.arrive]

end Steps

section Legs

variable {contract : Contract} {kind : StoredSubmissionKind} {row : Row kind} {stores : Stores}
variable {context : SubmissionContext} {body : Create kind} {env : Env}
variable (clear : env.faults = .clear) (kept : Kept contract row stores row)
variable (key : context.idempotencyKey = row.idempotencyKey) (digest : context.payloadSha256 = row.payloadSha256)

include clear kept key digest in
theorem resend_primary
    (guarded : storeGuard contract context env.databaseNow body (stores .primary) = .ok ()) :
    respond contract env (primaryLeg kind context body) stores = (.ok (storedOf true row),stores) := by
  have told := @respond_clear_ok contract env .primary (.store .primary kind context body) stores _ _ clear
    (store_replay guarded kept.member key.symm digest.symm)
  rwa [Function.update_eq_self] at told

include clear kept key digest in
/-- The mirror replays its copy or takes one. -/
theorem resend_mirror (guarded : storeGuard contract (context.withCanonicalId row.id) env.databaseNow body
      (stores .supabase) = .ok ()) :
    ∃ (other : Stored kind) (mirror : Database), other.id = row.id ∧
      respond contract env (mirrorLeg kind context body row.id) stores =
        (.ok other,Function.update stores .supabase mirror) ∧
      (stores .supabase).Retains mirror ∧ mirror.HoldsCopy row := by
  obtain ⟨other,named,told⟩ := kept.mirror clear key digest guarded
  obtain ⟨mirror,performed,changed⟩ := respond_ok told
  have retained := respond_retains contract env (mirrorLeg kind context body row.id) stores .supabase
  obtain ⟨copy,holds⟩ := store_holds told
  change (respond contract env (mirrorLeg kind context body row.id) stores).2 = _ at changed
  rw [changed, Function.update_self] at retained
  change Holds ((respond contract env (mirrorLeg kind context body row.id) stores).2 .supabase) _ _ _ _ at holds
  rw [changed, Function.update_self] at holds
  exact ⟨other,mirror,named,Prod.ext told changed,retained,copy,holds.member,holds.id.trans named,
    holds.idempotencyKey.trans key,holds.payloadSha256.trans digest⟩

include clear kept digest in
theorem resend_mark : respond contract env (markLeg kind context row.id) stores =
    (.ok (),Function.update stores .primary ((stores .primary).mirrored kind row.id row.payloadSha256)) := by
  refine @respond_clear_ok contract env .primary (.markMirrored kind row.id context.payloadSha256) stores _ _ clear ?_
  rw [Command.transaction, perform_markMirrored, digest, if_pos kept.acknowledges]

end Legs

section Told

variable {contract : Contract} {w : World} {i : Nat} {arrival : Arrival} {kind : StoredSubmissionKind}
variable {context : SubmissionContext} {body : Create kind} {env : Env}

/-- A request that was told of a row has it copied and marked by its next two calls. -/
theorem told_settles (reachable : Reachable contract w) {row : Row kind}
    (member : row ∈ (w.store .primary).table kind) (key : context.idempotencyKey = row.idempotencyKey)
    (digest : context.payloadSha256 = row.payloadSha256) (clear : env.faults = .clear)
    (passed : storeGuard contract (context.withCanonicalId row.id) env.databaseNow body (w.store .supabase) = .ok ())
    {finish : Handler Receipt} {next : Except DataError (Stored kind) → Handler Receipt}
    {last : Except DataError Unit → Handler Receipt} (finishes : finish = .call (markLeg kind context row.id) last)
    (called : ∀ other : Stored kind, other.id = row.id → next (.ok other) = finish)
    (here : w.sessions[i]? = some ⟨arrival,.running (.call (mirrorLeg kind context body row.id) next)⟩) :
    ∃ w', Machine.Run (server contract).Step w (List.replicate 2 (.advance i env)) w' ∧
      w'.sessions[i]? = some ⟨arrival,.running (last (.ok ()))⟩ ∧
      w'.sessions.map Session.arrival = w.sessions.map Session.arrival ∧
      Mends w.store w'.store ∧ Settled w'.store row := by
  -- the mirror has it or takes it
  have kept : Kept contract row w.store row := ⟨⟨w,reachable,rfl⟩,member,row.continues_refl⟩
  obtain ⟨other,mirror,named,told,retained,copied⟩ := resend_mirror clear kept key digest passed
  obtain ⟨w₁,mirrored,here₁,store₁,same₁⟩ := answered_step here told
  rw [called other named, finishes] at here₁
  -- the primary is told
  have primary₁ : w₁.store .primary = w.store .primary := by rw [store₁, Function.update_of_ne (by decide)]
  have kept₁ : Kept contract row w₁.store row :=
    ⟨⟨w₁,reachable.next mirrored,rfl⟩,primary₁ ▸ member,row.continues_refl⟩
  obtain ⟨w₂,marked,here₂,store₂,same₂⟩ := answered_step here₁ (resend_mark clear kept₁ digest)
  have primary₂ : w₂.store .primary = (w.store .primary).mirrored kind row.id row.payloadSha256 := by
    rw [store₂, Function.update_self, primary₁]
  have mirror₂ : w₂.store .supabase = mirror := by
    rw [store₂, Function.update_of_ne (by decide), store₁, Function.update_self]
  refine ⟨w₂,.cons mirrored (.cons marked .nil),here₂,same₂.trans same₁,⟨?_,?_⟩,?_,?_⟩
  · rw [primary₂]
    exact Database.mirrored_rewrites ..
  · rintro k old ⟨held,attested⟩
    refine ⟨?_,?_⟩
    · rw [mirror₂]
      exact held.kept retained
    · rw [primary₂]
      exact attested.mirrored
  · rw [mirror₂]
    exact copied
  · rw [primary₂]
    exact .acknowledged kept.acknowledges

end Told

/-- Behind each row is a request, and the one that repeats it. -/
theorem repeated {contract : Contract} {w : World} (reachable : Reachable contract w) {again : Arrival → Arrival}
    (repeats : ∀ session ∈ w.sessions, Repeats contract session.arrival (again session.arrival))
    {kind : StoredSubmissionKind} {row : Row kind} (member : row ∈ (w.store .primary).table kind) :
    ∃ session ∈ w.sessions, ∃ (body : Create kind) (context : SubmissionContext),
      Requested contract (again session.arrival) body context ∧ context.idempotencyKey = row.idempotencyKey ∧
      context.payloadSha256 = row.payloadSha256 ∧ storedInput body.input = row.payload ∧
      (kind = .application → context.subjectColumn = row.subject) := by
  obtain ⟨session,context,body,wrote⟩ := written reachable member
  obtain ⟨body',context',requested,input,key,caller⟩ := repeats session wrote.here kind body context wrote.requested
  refine ⟨session,wrote.here,body',context',requested,key.trans wrote.idempotencyKey.symm,?_,?_,fun application => ?_⟩
  · rw [requested.digest, input, wrote.payloadSha256]
  · rw [input, wrote.payload]
  · rw [wrote.subject, SubmissionContext.subjectColumn, caller application]
    rfl

/-- Whoever sends the submission of a row once more settles the row, if both stores let it in. -/
theorem resent_settles {contract : Contract} {w : World} (reachable : Reachable contract w)
    {kind : StoredSubmissionKind} {row : Row kind} (member : row ∈ (w.store .primary).table kind) {arrival : Arrival}
    {context : SubmissionContext} {body : Create kind} (requested : Requested contract arrival body context)
    (key : context.idempotencyKey = row.idempotencyKey) (digest : context.payloadSha256 = row.payloadSha256)
    {env : Env} (clear : env.faults = .clear)
    (passed : storeGuard contract context env.databaseNow body (w.store .primary) = .ok ())
    (passed' : storeGuard contract (context.withCanonicalId row.id) env.databaseNow body (w.store .supabase) = .ok ()) :
    ∃ events w', Machine.Run (server contract).Step w events w' ∧ (∀ event ∈ events, Resends [arrival] env event) ∧
      events.length = 4 ∧ Mends w.store w'.store ∧ Settled w'.store row := by
  obtain ⟨first,begun,-,legs⟩ := handle_legs requested
  -- the request arrives, and the primary replays it
  have kept : Kept contract row w.store row := ⟨⟨w,reachable,rfl⟩,member,row.continues_refl⟩
  obtain ⟨w₁,looked,here₁,store₁,-⟩ := arrives_answered begun (resend_primary clear kept key digest passed)
  obtain ⟨second,called,finishes⟩ := legs (storedOf true row)
  obtain ⟨last,marks⟩ := @finish_marks kind context body (storedOf true row)
  rw [storedOf_id] at called finishes marks
  rw [called] at here₁
  -- the mirror has it or takes it, and the primary is told
  obtain ⟨w₂,copied,-,-,mends,settled⟩ := told_settles (reachable.extend looked) (store₁ ▸ member) key digest
    clear (store₁ ▸ passed') marks finishes here₁
  rw [store₁] at mends
  refine ⟨_,w₂,looked.append copied,?_,rfl,mends,settled⟩
  simp only [List.cons_append, List.nil_append, List.replicate, List.forall_mem_cons]
  exact ⟨List.mem_singleton_self arrival,rfl,rfl,rfl,fun _ none => absurd none List.not_mem_nil⟩

/-- No gate stands before the requests of the other kinds. -/
theorem resend_settles {contract : Contract} {w : World} (reachable : Reachable contract w)
    {kind : StoredSubmissionKind} {row : Row kind} (member : row ∈ (w.store .primary).table kind)
    (stated : kind ≠ .application) {arrival : Arrival} {context : SubmissionContext} {body : Create kind}
    (requested : Requested contract arrival body context) (key : context.idempotencyKey = row.idempotencyKey)
    (digest : context.payloadSha256 = row.payloadSha256) {env : Env} (clear : env.faults = .clear) :
    ∃ events w', Machine.Run (server contract).Step w events w' ∧ (∀ event ∈ events, Resends [arrival] env event) ∧
      events.length = 4 ∧ Mends w.store w'.store ∧ Settled w'.store row := by
  have passed (id : Uuid) (db : Database) :
      storeGuard contract (context.withCanonicalId id) env.databaseNow body db = .ok () := by
    rcases requested.guard id env.databaseNow db with passed | ⟨application,-⟩
    · exact passed
    · contradiction
  exact resent_settles reachable member requested key digest clear (passed context.canonicalId _) (passed row.id _)

/-- The rows of the primary that a resent request can settle: all but the applications, whose
documents may have expired. -/
def Database.resendable (db : Database) : List ((kind : StoredSubmissionKind) × Row kind) :=
  (db.table .preInterest).rows.map (⟨.preInterest,·⟩) ++ (db.table .upload).rows.map (⟨.upload,·⟩) ++
    (db.table .referral).rows.map (⟨.referral,·⟩)

theorem Database.mem_resendable {db : Database} {kind : StoredSubmissionKind} {row : Row kind} :
    (⟨kind,row⟩ : (kind : StoredSubmissionKind) × Row kind) ∈ db.resendable ↔
      kind ≠ .application ∧ row ∈ db.table kind := by
  cases kind <;> simp [resendable, Table.mem_rows]

def Resubmitted (contract : Contract) (arrivals : List Arrival) {kind : StoredSubmissionKind} (row : Row kind) :
    Prop :=
  ∃ arrival ∈ arrivals, ∃ (body : Create kind) (context : SubmissionContext), Requested contract arrival body context ∧
    context.idempotencyKey = row.idempotencyKey ∧ context.payloadSha256 = row.payloadSha256

/-- The requests of several rows, one after the other. -/
theorem resend_all {contract : Contract} {env : Env} (clear : env.faults = .clear) {arrivals : List Arrival}
    (rows : List ((kind : StoredSubmissionKind) × Row kind)) {w : World} (reachable : Reachable contract w)
    (stored : ∀ entry ∈ rows, entry.1 ≠ .application ∧ Resubmitted contract arrivals entry.2 ∧
      ∃ row ∈ (w.store .primary).table entry.1, entry.2.Continues row) :
    ∃ events w', Machine.Run (server contract).Step w events w' ∧ (∀ event ∈ events, Resends arrivals env event) ∧
      events.length = 4 * rows.length ∧ Mends w.store w'.store ∧ ∀ entry ∈ rows, Settled w'.store entry.2 := by
  induction rows generalizing w with
  | nil =>
    exact ⟨[],w,.nil,fun _ none => absurd none List.not_mem_nil,rfl,.refl _,
      fun _ none => absurd none List.not_mem_nil⟩
  | cons entry rows ih =>
    obtain ⟨stated,⟨arrival,known,body,context,requested,key,digest⟩,row,member,continues⟩ :=
      stored entry List.mem_cons_self
    obtain ⟨first,middle,begun,resent,four,mends,settled⟩ := resend_settles reachable member stated requested
      (key.trans continues.idempotencyKey.symm) (digest.trans continues.payloadSha256.symm) clear
    have rest : ∀ entry ∈ rows, entry.1 ≠ .application ∧ Resubmitted contract arrivals entry.2 ∧
        ∃ row ∈ (middle.store .primary).table entry.1, entry.2.Continues row := by
      intro other listed
      obtain ⟨stated,asked,row,member,continues⟩ := stored other (List.mem_cons_of_mem _ listed)
      obtain ⟨row',there,continues'⟩ := mends.rewrites.kept other.1 row member
      exact ⟨stated,asked,row',there,continues.trans continues'⟩
    obtain ⟨more,w',run,resent',count,mends',settled'⟩ := ih (reachable.extend begun) rest
    refine ⟨first ++ more,w',begun.append run,?_,?_,mends.trans mends',?_⟩
    · intro event listed
      rcases List.mem_append.mp listed with early | late
      · exact (resent event early).mono (List.forall_mem_singleton.mpr known)
      · exact resent' event late
    · rw [List.length_append, List.length_cons]
      omega
    · intro other listed
      rcases List.mem_cons.mp listed with rfl | listed
      · exact mends'.settled _ ((Settled.of_continues continues).mp settled)
      · exact settled' other listed

/-- From every state, sending each stored submission once more, under whatever ids and proofs, with
nothing else going on and no fault, brings both stores together: every row of the primary but the
applications has its copy and is called mirrored, whatever was recorded of it before, and no row is added. -/
theorem converges {contract : Contract} {w : World} (reachable : Reachable contract w) {again : Arrival → Arrival}
    (repeats : ∀ session ∈ w.sessions, Repeats contract session.arrival (again session.arrival)) {env : Env}
    (clear : env.faults = .clear) : ∃ events w', Machine.Run (server contract).Step w events w' ∧
      (∀ event ∈ events, Resends (w.sessions.map fun session => again session.arrival) env event) ∧
      events.length = 4 * (w.store .primary).resendable.length ∧
      (w.store .primary).Rewrites (w'.store .primary) ∧
      ∀ kind ≠ .application, ∀ row ∈ (w'.store .primary).table kind,
        (w'.store .supabase).HoldsCopy row ∧ (w'.store .primary).Marked kind row.id := by
  have stored : ∀ entry ∈ (w.store .primary).resendable, entry.1 ≠ .application ∧
      Resubmitted contract (w.sessions.map fun session => again session.arrival) entry.2 ∧
      ∃ row ∈ (w.store .primary).table entry.1, entry.2.Continues row := by
    intro entry listed
    obtain ⟨stated,member⟩ := Database.mem_resendable.mp listed
    obtain ⟨session,there,body,context,requested,key,digest,-⟩ := repeated reachable repeats member
    exact ⟨stated,⟨_,List.mem_map_of_mem there,body,context,requested,key,digest⟩,entry.2,member,
      entry.2.continues_refl⟩
  obtain ⟨events,w',run,resent,count,mends,settled⟩ :=
    resend_all clear (w.store .primary).resendable reachable stored
  refine ⟨events,w',run,resent,count,mends.rewrites,fun kind stated row member => ?_⟩
  obtain ⟨before,here,continues⟩ := mends.rewrites.rows kind row member
  obtain ⟨copied,marked⟩ := (Settled.of_continues continues).mpr
    (settled ⟨kind,before⟩ (Database.mem_resendable.mpr ⟨stated,here⟩))
  exact ⟨copied,marked⟩

def Sample.reproved (canonicalId : Uuid) : Arrival :=
  arrival none canonicalId (.create .preInterest ⟨preInterest,some "proof-two"⟩) "hhaus.org"

/-- From a recorded failure it takes one request, with a new id and proof. -/
theorem converges_unmirrored : ∃ events w',
    Machine.Run (server .sample).Step (outcome .sample Sample.unmirrored) events w' ∧ events.length = 4 ∧
      (∀ event ∈ events, Resends [Sample.reproved 2] (Sample.calm 20) event) ∧
      ∀ row ∈ (w'.store .primary).table .preInterest, (w'.store .supabase).HoldsCopy row := by
  have one : ((outcome .sample Sample.unmirrored).store .primary).resendable.length = 1 := by decide +kernel
  have sent : (outcome .sample Sample.unmirrored).sessions.map Session.arrival = [Sample.anonymous 1] :=
    sessions_outcome Sample.unmirrored_possible
  have repeats : ∀ session ∈ (outcome .sample Sample.unmirrored).sessions,
      Repeats .sample session.arrival (Sample.reproved 2) := by
    intro session member kind body context requested
    have arrived : session.arrival = Sample.anonymous 1 := List.mem_singleton.mp (sent ▸ List.mem_map_of_mem member)
    obtain ⟨asked,admitted⟩ := requested
    rw [arrived] at asked admitted
    cases asked
    cases admitted
    exact ⟨⟨Sample.preInterest,some "proof-two"⟩,_,⟨rfl,rfl⟩,rfl,rfl,fun application => absurd application (by decide)⟩
  obtain ⟨events,w',run,resent,count,-,settled⟩ := @converges .sample _
    (reachable_outcome Sample.unmirrored_possible) (fun _ => Sample.reproved 2) repeats (Sample.calm 20) rfl
  rw [one] at count
  have single : (outcome .sample Sample.unmirrored).sessions.map (fun _ => Sample.reproved 2) = [Sample.reproved 2] := by
    have counted := congrArg List.length sent
    rw [List.length_map] at counted
    rw [List.map_const', counted]
    rfl
  rw [single] at resent
  exact ⟨events,w',run,count,resent,fun row member => (settled .preInterest (by decide) row member).1⟩

section Completion

variable {contract : Contract} {id : Uuid} {subject : Option VerifiedSubject} {body : UploadCompleteCreate}

/-- The calls of a completion, while its answers are the ones it hopes for. -/
theorem complete_legs {primary mirror : PendingUpload} (found : Completion.Found body primary mirror) :
    ∃ first, completeAdmitted id subject body = .call (Completion.lookLeg id subject .primary) first ∧
      ∃ second, first (.ok primary) = .call (Completion.lookLeg id subject .supabase) second ∧
      ∃ third, second (.ok mirror) = .call (.verifyObject primary) third ∧
      ∃ fourth, third (.ok ()) = .call (Completion.verifyLeg id subject .supabase body) fourth ∧
      ∃ fifth, fourth (.ok ()) = .call (Completion.verifyLeg id subject .primary body) fifth ∧
        fifth (.ok ()) = .done (.ok (.uploadCompletion ⟨id,.verified⟩)) := by
  obtain ⟨declared,same⟩ := found
  refine ⟨_,rfl,?_⟩
  change ∃ second, (Program.require (decide _) _ >>= _ : Handler Receipt) = _ ∧ _
  rw [decide_eq_true declared]
  refine ⟨_,rfl,?_⟩
  change ∃ third, (Program.require _ _ >>= _ : Handler Receipt) = _ ∧ _
  rw [same]
  exact ⟨_,rfl,_,rfl,_,rfl,rfl⟩

/-- A store has the upload for its owner, who declares its digest again. -/
structure Awaits (db : Database) (now : Timestamp) (subject : Option VerifiedSubject) (body : UploadCompleteCreate)
    (row : Row .upload) : Prop where
  member : row ∈ db.table .upload
  owner : row.subject = subject.map VerifiedSubject.value
  unexpired : now < row.state.expiresAt
  declared : body.sha256 = row.payload.sha256

theorem Awaits.isDigest {w : World} (reachable : Reachable contract w) {connection : Connection} {now : Timestamp}
    {row : Row .upload} (awaits : Awaits (w.store connection) now subject body row) :
    IntakeApi.isDigest body.sha256 = true := by
  obtain ⟨session,context,intent,wrote⟩ := written reachable awaits.member
  rw [awaits.declared, wrote.payload]
  exact contract.upload_sha256 intent wrote.requested.valid

section Awaiting

variable {stores : Stores} {connection : Connection} {env : Env} {row : Row .upload}
variable (clear : env.faults = .clear) (awaits : Awaits (stores connection) env.databaseNow subject body row)
variable (claimable : row.state.status.claimable = true)

variable (contract) in
include clear awaits claimable in
theorem Awaits.looks : respond contract env (Completion.lookLeg row.id subject connection) stores =
    (.ok (pendingOf row),stores) := by
  have told := @respond_clear_ok contract env connection (.pendingUpload row.id subject) stores _ _ clear
    (pendingUpload_found awaits.member awaits.owner awaits.unexpired claimable)
  rwa [Function.update_eq_self] at told

variable (contract) in
include clear awaits claimable in
theorem Awaits.verifies (digest : IntakeApi.isDigest body.sha256 = true) : ∃ db : Database,
    respond contract env (Completion.verifyLeg row.id subject connection body) stores =
      (.ok (),Function.update stores connection db) ∧
    ∃ later ∈ db.table .upload, later.id = row.id ∧ later.state.status = .verified := by
  have pending : row.isPending env.databaseNow row.id (subject.map VerifiedSubject.value) = true := by
    simp [Row.isPending, awaits.owner, awaits.unexpired, claimable]
  have one : ((stores connection).table .upload).count (fun other =>
      other.isPending env.databaseNow row.id (subject.map VerifiedSubject.value) &&
        other.payload.sha256 = body.sha256) = 1 := by
    refine Table.count_eq_one awaits.member ?_ ?_
    · simp [pending, awaits.declared]
    · intro other chosen
      simp only [Row.isPending, Bool.and_eq_true, decide_eq_true_eq] at chosen
      exact chosen.1.1.1.1
  have performed : perform env.databaseNow (verifyUpload row.id subject body.sha256) (stores connection) =
      .ok ((),(stores connection).verifyUpload env.databaseNow row.id (subject.map VerifiedSubject.value)
        body.sha256) := by
    rw [perform_verifyUpload, if_pos digest, if_pos one]
  exact ⟨_,@respond_clear_ok contract env connection (.verifyUpload row.id subject body.sha256) stores _ _ clear
    performed,row.verified env.databaseNow,
    Database.mem_verifyUpload.mpr ⟨row,awaits.member,if_pos ⟨pending,awaits.declared.symm⟩⟩,rfl,rfl⟩

end Awaiting

section Calls

variable {w : World} {i : Nat} {arrival : Arrival} {env : Env} {row copy : Row .upload}
variable (clear : env.faults = .clear) (same : sameUploadIdentity (pendingOf row) (pendingOf copy) = true)
variable (copied : Awaits (w.store .supabase) env.databaseNow subject body copy)

include clear same copied in
/-- Both stores find the upload, and the object is what was declared. -/
theorem completion_reads (awaits : Awaits (w.store .primary) env.databaseNow subject body row)
    (claimable : row.state.status.claimable = true) (claimable' : copy.state.status.claimable = true)
    (object : verifyObject contract (pendingOf row) env.object = .ok ())
    (here : w.sessions[i]? = some ⟨arrival,.running (completeAdmitted row.id subject body)⟩) :
    ∃ w' next last, Machine.Run (server contract).Step w (List.replicate 3 (.advance i env)) w' ∧
      w'.sessions[i]? = some ⟨arrival,.running (.call (Completion.verifyLeg row.id subject .supabase body) next)⟩ ∧
      w'.store = w.store ∧ next (.ok ()) = .call (Completion.verifyLeg row.id subject .primary body) last ∧
      last (.ok ()) = .done (.ok (.uploadCompletion ⟨row.id,.verified⟩)) := by
  have found : Completion.Found body (pendingOf row) (pendingOf copy) := ⟨awaits.declared,same⟩
  have twin : copy.id = row.id := (sameUploadIdentity_true.mp same).1.symm
  obtain ⟨first,begun,second,called₁,third,called₂,fourth,called₃,fifth,called₄,finished⟩ :=
    @complete_legs row.id subject body _ _ found
  rw [begun] at here
  obtain ⟨w₁,step₁,here₁,store₁,-⟩ := answered_step here (awaits.looks contract clear claimable)
  change w₁.store = w.store at store₁
  rw [called₁] at here₁
  have looked := copied.looks contract clear claimable'
  rw [twin, ← store₁] at looked
  obtain ⟨w₂,step₂,here₂,store₂,-⟩ := answered_step here₁ looked
  rw [called₂] at here₂
  have matching : respond contract env (.verifyObject (pendingOf row)) w₂.store = (.ok (),w₂.store) := by
    rw [respond, object]
  obtain ⟨w₃,step₃,here₃,store₃,-⟩ := answered_step here₂ matching
  rw [called₃] at here₃
  refine ⟨w₃,fourth,fifth,.cons step₁ (.cons step₂ (.cons step₃ .nil)),here₃,?_,called₄,finished⟩
  rw [store₃, store₂, store₁]

include clear same copied in
theorem completion_verifies (awaits : Awaits (w.store .primary) env.databaseNow subject body row)
    (claimable : row.state.status.claimable = true) (claimable' : copy.state.status.claimable = true)
    (digest : IntakeApi.isDigest body.sha256 = true) {result : Handler Receipt}
    {next last : Except DataError Unit → Handler Receipt}
    (called : next (.ok ()) = .call (Completion.verifyLeg row.id subject .primary body) last)
    (finished : last (.ok ()) = result)
    (here : w.sessions[i]? = some ⟨arrival,.running (.call (Completion.verifyLeg row.id subject .supabase body) next)⟩) :
    ∃ w', Machine.Run (server contract).Step w (List.replicate 2 (.advance i env)) w' ∧
      w'.sessions[i]? = some ⟨arrival,.running result⟩ ∧
      ∀ connection, ∃ later ∈ (w'.store connection).table .upload,
        later.id = row.id ∧ later.state.status = .verified := by
  have twin : copy.id = row.id := (sameUploadIdentity_true.mp same).1.symm
  obtain ⟨mirror,told,held⟩ := copied.verifies contract clear claimable' digest
  rw [twin] at told held
  obtain ⟨w₁,step₁,here₁,store₁,-⟩ := answered_step here told
  rw [called] at here₁
  have primary : w₁.store .primary = w.store .primary := by
    rw [store₁, Function.update_of_ne (by decide)]
  rw [← primary] at awaits
  obtain ⟨db,told',held'⟩ := awaits.verifies contract clear claimable digest
  obtain ⟨w₂,step₂,here₂,store₂,-⟩ := answered_step here₁ told'
  rw [finished] at here₂
  refine ⟨w₂,.cons step₁ (.cons step₂ .nil),here₂,fun connection => ?_⟩
  cases connection with
  | primary =>
    rw [store₂, Function.update_self]
    exact held'
  | supabase =>
    rw [store₂, Function.update_of_ne (by decide), store₁, Function.update_self]
    exact held

end Calls

/-- An unexpired upload that both stores have for its owner is completed by one request of the
owner, as soon as nothing fails and the storage holds the declared object: whatever earlier
completions ran into, they leave nothing behind that stands in the way. -/
theorem upload_finishes {w : World} (reachable : Reachable contract w) {arrival : Arrival} {env : Env}
    {row copy : Row .upload} (completing : Completing contract arrival row.id subject body)
    (clear : env.faults = .clear) (awaits : Awaits (w.store .primary) env.databaseNow subject body row)
    (copied : Awaits (w.store .supabase) env.databaseNow subject body copy)
    (same : sameUploadIdentity (pendingOf row) (pendingOf copy) = true)
    (object : verifyObject contract (pendingOf row) env.object = .ok ()) :
    ∃ w', Machine.Run (server contract).Step w
        (.arrive arrival :: List.replicate 5 (.advance w.sessions.length env) ++ [.reply w.sessions.length]) w' ∧
      w'.sessions[w.sessions.length]? = some ⟨arrival,.replied (.ok (.uploadCompletion ⟨row.id,.verified⟩))⟩ ∧
      ∀ connection, ∃ later ∈ (w'.store connection).table .upload,
        later.id = row.id ∧ later.state.status = .verified := by
  have digest := awaits.isDigest reachable
  have live := (upload_live reachable awaits.member).1
  have live' := (upload_live reachable copied.member).1
  have arrived : (server contract).Step w (.arrive arrival)
      (w.arrive arrival (handle contract arrival)) := .arrive arrival
  have admitted : handle contract arrival = completeAdmitted row.id subject body := by
    rw [handle_complete completing.request, completing.admitted]
  rw [admitted] at arrived
  have here : (w.arrive arrival (completeAdmitted row.id subject body)).sessions[w.sessions.length]? =
      some ⟨arrival,.running (completeAdmitted row.id subject body)⟩ := by
    simp [World.arrive]
  obtain ⟨w₁,next,last,read,here₁,unmoved,called,finished⟩ :=
    @completion_reads _ _ _ (w.arrive arrival (completeAdmitted row.id subject body)) _ _ _ _ _ clear same copied
      awaits live live' object here
  change w₁.store = w.store at unmoved
  rw [← unmoved] at awaits copied
  obtain ⟨w₂,verified,here₂,both⟩ :=
    completion_verifies clear same copied awaits live live' digest called finished here₁
  obtain ⟨bound,-⟩ := List.getElem?_eq_some_iff.mp here₂
  have replied : (server contract).Step w₂ (.reply w.sessions.length) _ := .reply here₂
  exact ⟨_,.cons arrived (read.append (verified.append (.cons replied .nil))),List.getElem?_set_self bound,both⟩

namespace Sample

/-- A completion that verified the mirror's row, and lost the primary before its own. -/
def halfCompleted : List (Event Env Arrival) :=
  [.arrive (intent 1 .resume),.advance 0 (calm 10),.advance 0 (calm 11),.advance 0 (calm 12),
    .advance 0 { calm 13 with signedUrl := .ok "https://storage/upload" },.reply 0,
    .arrive (completion 1 .resume),.advance 1 (calm 14),.advance 1 (calm 15),
    .advance 1 { calm 16 with object := .ok (object .resume) },.advance 1 (calm 17),
    .advance 1 { calm 18 with faults := ⟨some 0,.acknowledged⟩ },.reply 1]

theorem halfCompleted_stuck : possible .sample halfCompleted = true ∧
    (outcome .sample halfCompleted).sessions.length = 2 ∧
    ∃ row ∈ (((outcome .sample halfCompleted).store .primary).table .upload).rows,
      ∃ copy ∈ (((outcome .sample halfCompleted).store .supabase).table .upload).rows,
        row.id = 1 ∧ row.subject = none ∧ 20 < row.state.expiresAt ∧ contentDigest .resume = row.payload.sha256 ∧
        copy.subject = none ∧ 20 < copy.state.expiresAt ∧ contentDigest .resume = copy.payload.sha256 ∧
        row.state.status = .pending ∧ copy.state.status = .verified ∧
        sameUploadIdentity (pendingOf row) (pendingOf copy) = true ∧
        (verifyObject .sample (pendingOf row) (.ok (object .resume))).toBool = true := by
  decide +kernel

end Sample

/-- The next completion picks up where that one broke off. -/
theorem upload_finishes_half : ∃ w', Machine.Run (server .sample).Step (outcome .sample Sample.halfCompleted)
      (.arrive (Sample.completion 1 .resume) ::
        List.replicate 5 (.advance 2 { Sample.calm 20 with object := .ok (Sample.object .resume) }) ++ [.reply 2]) w' ∧
    w'.sessions[2]? = some ⟨Sample.completion 1 .resume,.replied (.ok (.uploadCompletion ⟨1,.verified⟩))⟩ := by
  obtain ⟨ran,two,row,member,copy,copied,id,owner,live,digest,owner',live',digest',-,-,same,read⟩ :=
    Sample.halfCompleted_stuck
  have object : verifyObject .sample (pendingOf row) (.ok (Sample.object .resume)) = .ok () := by
    cases answer : verifyObject .sample (pendingOf row) (.ok (Sample.object .resume)) with
    | ok => rfl
    | error => rw [answer] at read; cases read
  obtain ⟨w',run,replied,-⟩ := @upload_finishes .sample none ⟨Sample.contentDigest .resume,some "proof-two"⟩ _
    (reachable_outcome ran) (Sample.completion 1 .resume)
    { Sample.calm 20 with object := .ok (Sample.object .resume) } row copy ⟨by rw [id]; rfl,rfl⟩ rfl
    ⟨member,owner,live,digest⟩ ⟨copied,owner',live',digest'⟩ same object
  rw [two] at run replied
  rw [id] at replied
  exact ⟨w',run,replied⟩

end Completion

end IntakeApi
