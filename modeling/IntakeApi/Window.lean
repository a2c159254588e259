import IntakeApi.Convergence
import IntakeApi.Expiry

/-! The window of an application: until one of its uploads has expired in a store, sending the
request once more settles the row; once one has expired in the mirror, nothing does. -/
namespace IntakeApi

open Interaction Relational Transaction Service

section Row

variable {contract : Contract} {w : World} (reachable : Reachable contract w) {row : Row .application}
variable (member : row ∈ (w.store .primary).table .application)

include reachable member in
/-- Both stores have the uploads of an application, verified and its owner's. -/
theorem application_owns (connection : Connection) :
    (w.store connection).Owns row.subject .resume row.payload.resumeUploadId ∧
      (w.store connection).Owns row.subject .photoId row.payload.photoIdUploadId := by
  obtain ⟨entry,logged,inserts⟩ := insertion reachable .primary .application row member
  obtain ⟨resume,photoId⟩ := inserted_uploads reachable logged inserts
  cases connection with
  | primary => exact ⟨resume.owns,photoId.owns⟩
  | supabase => exact ⟨owned_copy reachable resume.owns,owned_copy reachable photoId.owns⟩

include reachable member in
theorem application_settles {again : Arrival → Arrival}
    (repeats : ∀ session ∈ w.sessions, Repeats contract session.arrival (again session.arrival)) {env : Env}
    (clear : env.faults = .clear)
    (window : ∀ connection, (w.store connection).InWindow env.databaseNow row.payload) :
    ∃ events w', Machine.Run (server contract).Step w events w' ∧
      (∀ event ∈ events, Resends (w.sessions.map fun session => again session.arrival) env event) ∧
      events.length = 4 ∧ Settled w'.store row := by
  obtain ⟨session,there,body,context,requested,key,digest,payload,caller⟩ := repeated reachable repeats member
  have subject := caller rfl
  have passed (id : Uuid) (connection : Connection) :
      storeGuard contract (context.withCanonicalId id) env.databaseNow body (w.store connection) = .ok () := by
    obtain ⟨resume,photoId⟩ := application_owns reachable member connection
    obtain ⟨resumes,photos⟩ := window connection
    have gate := And.intro (resume.holdsVerified_iff.mpr resumes) (photoId.holdsVerified_iff.mpr photos)
    rw [← payload, ← subject] at gate
    exact (application_guard requested.valid).mpr gate
  obtain ⟨events,w',run,resent,four,-,settled⟩ := resent_settles reachable member requested key digest clear
    (passed context.canonicalId .primary) (passed row.id .supabase)
  have known : again session.arrival ∈ w.sessions.map fun session => again session.arrival := List.mem_map_of_mem there
  exact ⟨events,w',run,fun event listed => (resent event listed).mono (List.forall_mem_singleton.mpr known),four,settled⟩

end Row

/-- A copy of an application that arrives in a run was let in by the gate of the mirror on the way. -/
theorem arrived_in_window {contract : Contract} {w w' : World} {events : List (Event Env Arrival)}
    (reachable : Reachable contract w) (run : Machine.Run (server contract).Step w events w') {copy : Row .application}
    (copied : copy ∈ (w'.store .supabase).table .application)
    (absent : ∀ other ∈ (w.store .supabase).table .application, other.id ≠ copy.id) :
    ∃ i env, .advance i env ∈ events ∧ (w'.store .supabase).InWindow env.databaseNow copy.payload := by
  obtain ⟨entry,logged,inserts⟩ := insertion (reachable.extend run) .supabase .application copy copied
  rcases Server.log_events run entry logged with earlier | ⟨i,made⟩
  · obtain ⟨fresh,present,continues⟩ := inserts.present
    obtain ⟨kept,there,continues'⟩ := after_retained reachable earlier .supabase .application fresh present
    exact absurd (continues'.id.trans continues.id.symm) (absent kept there)
  · obtain ⟨⟨resume,listed,named,-,-,-,unexpired⟩,photoId,listed',named',-,-,-,unexpired'⟩ :=
      inserted_uploads (reachable.extend run) logged inserts
    exact ⟨i,entry.env,made,⟨resume,listed,named,unexpired⟩,photoId,listed',named',unexpired'⟩

/-- A window that has closed stays closed. -/
theorem Database.Unexpired.earlier {db later : Database} {now time : Timestamp} {id : Uuid} (kept : db.Retains later)
    (there : ∃ row ∈ db.table .upload, row.id = id) (since : now ≤ time) (unexpired : later.Unexpired time id) :
    db.Unexpired now id := by
  obtain ⟨row,member,named⟩ := there
  obtain ⟨row',member',continues⟩ := kept .upload row member
  obtain ⟨other,listed,named',ahead⟩ := unexpired
  have same : other = row' := Table.eq_of_id listed member' (named'.trans (continues.id.trans named).symm)
  obtain ⟨-,expiry,-⟩ := continues.state
  rw [same, expiry] at ahead
  exact ⟨row,member,named,Nat.lt_of_le_of_lt since ahead⟩

theorem Database.Owns.exists {db : Database} {subject : Option String} {kind : UploadKind} {id : Uuid}
    (owns : db.Owns subject kind id) : ∃ row ∈ db.table .upload, row.id = id := by
  obtain ⟨row,member,named,-⟩ := owns
  exact ⟨row,member,named⟩

/-- Neither the outbox item nor the row is called mirrored. -/
structure Database.Unmarked (db : Database) (kind : StoredSubmissionKind) (id : Uuid) : Prop where
  item : ∀ item ∈ db.outbox, item.submissionKind = kind → item.submissionId = id → item.mirrorStatus ≠ .mirrored
  row : ∀ row ∈ db.table kind, row.id = id → row.mirrorStatus ≠ some .mirrored

section Stranded

variable {contract : Contract} {w w' : World} {events : List (Event Env Arrival)} {row : Row .application}

/-- An application whose window in the mirror has closed has its copy there by then, or gets none. -/
theorem application_stranded (reachable : Reachable contract w)
    (member : row ∈ (w.store .primary).table .application)
    (absent : ∀ copy ∈ (w.store .supabase).table .application, copy.id ≠ row.id) {now : Timestamp}
    (closed : ¬(w.store .supabase).InWindow now row.payload) (run : Machine.Run (server contract).Step w events w')
    (since : ∀ i env, .advance i env ∈ events → now ≤ env.databaseNow) (free : CollisionFree contract w') :
    ∀ copy ∈ (w'.store .supabase).table .application, copy.id ≠ row.id := by
  intro copy copied named
  obtain ⟨i,env,made,resumes,photos⟩ :=
    arrived_in_window reachable run copied fun other there => named ▸ absent other there
  have kept := run_kept run
  obtain ⟨row',member',continues⟩ := kept .primary .application row member
  have payload := copied_payload (reachable.extend run) free member' copied (continues.id.trans named.symm)
  rw [← payload, continues.payload] at resumes photos
  obtain ⟨resume,photoId⟩ := application_owns reachable member .supabase
  exact closed ⟨resumes.earlier (kept .supabase) resume.exists (since i env made),
    photos.earlier (kept .supabase) photoId.exists (since i env made)⟩

/-- A row without a copy is not called mirrored. -/
theorem unmarked_of_absent (reachable : Reachable contract w) (member : row ∈ (w.store .primary).table .application)
    (absent : ∀ copy ∈ (w.store .supabase).table .application, copy.id ≠ row.id) :
    (w.store .primary).Unmarked .application row.id := by
  have unattested (attests : (w.store .primary).Attests row) : False := by
    obtain ⟨copy,there,id,-⟩ := attested_row reachable member attests
    exact absent copy there id
  constructor
  · exact fun item listed sort named status => unattested (.inr ⟨item,listed,sort,named,status⟩)
  · intro other there named status
    rw [Table.eq_of_id there member named] at status
    exact unattested (.inl status)

end Stranded

/-- An application that the primary has can be settled by sending it once more, under whatever id and
proof, while both stores have its uploads unexpired. From when one of them has expired in the mirror, an
application that the mirror does not have stays apart, whatever is sent: it is never copied, called
mirrored in its item or its row, or answered with a 201. -/
theorem application_window {contract : Contract} {w : World} (reachable : Reachable contract w) {row : Row .application}
    (member : row ∈ (w.store .primary).table .application) :
    (∀ again : Arrival → Arrival,
      (∀ session ∈ w.sessions, Repeats contract session.arrival (again session.arrival)) →
      ∀ env : Env, env.faults = .clear → (∀ connection, (w.store connection).InWindow env.databaseNow row.payload) →
        ∃ events w', Machine.Run (server contract).Step w events w' ∧
          (∀ event ∈ events, Resends (w.sessions.map fun session => again session.arrival) env event) ∧
          events.length = 4 ∧ Settled w'.store row) ∧
    ∀ (now : Timestamp) (events : List (Event Env Arrival)) (w' : World),
      (∀ copy ∈ (w.store .supabase).table .application, copy.id ≠ row.id) →
      ¬(w.store .supabase).InWindow now row.payload → Machine.Run (server contract).Step w events w' →
      (∀ i env, .advance i env ∈ events → now ≤ env.databaseNow) → CollisionFree contract w' →
      (∀ copy ∈ (w'.store .supabase).table .application, copy.id ≠ row.id) ∧
      (w'.store .primary).Unmarked .application row.id ∧
      ∀ (i : Nat) (arrival : Arrival) (receipt : Receipt), w'.sessions[i]? = some ⟨arrival,.replied (.ok receipt)⟩ →
        receipt.created ≠ some (.application,row.id) := by
  refine ⟨fun again repeats env clear window => application_settles reachable member repeats clear window,?_⟩
  intro now events w' absent closed run since free
  have apart := application_stranded reachable member absent closed run since free
  have reachable' := reachable.extend run
  obtain ⟨row',member',continues⟩ := run_kept run .primary .application row member
  refine ⟨apart,?_,?_⟩
  · rw [← continues.id] at apart ⊢
    exact unmarked_of_absent reachable' member' apart
  · intro i arrival receipt here created
    obtain ⟨context,body,stored,told,named⟩ := acknowledged_as reachable' here created
    obtain ⟨copy,there,id,-⟩ := told.rows reachable' .supabase
    exact apart copy there (id.trans named)

namespace Sample

/-- The mirror is out of reach while the application is stored, and the failure is recorded. -/
def stranded : List (Event Env Arrival) :=
  documents ++ [.arrive (applying 4),.advance 4 (calm 24),
    .advance 4 { calm 25 with faults := ⟨some 0,.acknowledged⟩ },.advance 4 (calm 26),.reply 4]

/-- After three hours the owner tries again. -/
def strandedLate : List (Event Env Arrival) :=
  stranded ++ [.arrive (applying 5),.advance 5 (calm (hours 3)),.reply 5]

theorem stranded_apart : possible .sample stranded = true ∧
    (∀ copy ∈ (((outcome .sample stranded).store .supabase).table .application).rows, copy.id ≠ 4) ∧
    (∃ row ∈ (((outcome .sample stranded).store .primary).table .application).rows, row.id = 4) ∧
    ∀ connection ∈ [Connection.primary,.supabase],
      ∀ upload ∈ (((outcome .sample stranded).store connection).table .upload).rows,
        30 < upload.state.expiresAt ∧ upload.state.expiresAt ≤ hours 3 := by
  decide +kernel

theorem strandedLate_possible : possible .sample strandedLate = true := by decide +kernel

theorem strandedLate_free : CollisionFree .sample (outcome .sample strandedLate) :=
  applying_free (sessions_outcome strandedLate_possible)

/-- The application under another id and proof; everything else as it was. -/
def reapplied (arrival : Arrival) : Arrival :=
  match arrival.request with
  | .create .application _ => Sample.arrival none 6 (.create .application ⟨application,some "proof-two"⟩) "hhaus.org"
  | _ => arrival

theorem reapplied_repeats : ∀ session ∈ (outcome .sample stranded).sessions,
    Repeats .sample session.arrival (reapplied session.arrival) := by
  intro session member
  have known : session.arrival ∈ stranded.filterMap Event.arrival? :=
    sessions_outcome stranded_apart.1 ▸ List.mem_map_of_mem member
  generalize session.arrival = arrival at known
  change arrival ∈ [intent 2 .resume,keyed "intake-key-000002" (intent 3 .photoId),completion 2 .resume,
    completion 3 .photoId,applying 4] at known
  simp only [List.mem_cons, List.not_mem_nil, or_false] at known
  rcases known with rfl | rfl | rfl | rfl | rfl
  · exact .refl _
  · exact .refl _
  · exact .refl _
  · exact .refl _
  · rintro kind body context ⟨asked,admitted⟩
    cases asked
    cases admitted
    exact ⟨⟨application,some "proof-two"⟩,_,⟨rfl,rfl⟩,rfl,rfl,fun _ => rfl⟩

theorem stranded_open {row : Row .application} (member : row ∈ ((outcome .sample stranded).store .primary).table .application)
    (connection : Connection) : ((outcome .sample stranded).store connection).InWindow (calm 30).databaseNow row.payload := by
  obtain ⟨ran,-,-,expiries⟩ := stranded_apart
  obtain ⟨resume,photoId⟩ := application_owns (reachable_outcome ran) member connection
  obtain ⟨upload,listed,id⟩ := resume.exists
  obtain ⟨upload',listed',id'⟩ := photoId.exists
  have ahead := expiries connection (by cases connection <;> simp)
  exact ⟨⟨upload,listed,id,(ahead upload listed).1⟩,upload',listed',id',(ahead upload' listed').1⟩

theorem stranded_closed (input : ApplicationCreate) :
    ¬((outcome .sample stranded).store .supabase).InWindow (hours 3) input := by
  rintro ⟨⟨upload,listed,-,ahead⟩,-⟩
  exact absurd ahead (Nat.not_lt.mpr (stranded_apart.2.2.2 .supabase (by simp) upload listed).2)

theorem strandedLate_since (i : Nat) (env : Env)
    (listed : Event.advance i env ∈ [Event.arrive (applying 5),.advance 5 (calm (hours 3)),.reply 5]) :
    hours 3 ≤ env.databaseNow := by
  simp only [List.mem_cons, List.not_mem_nil, or_false] at listed
  rcases listed with same | same | same
  · cases same
  · cases same; exact Nat.le_refl _
  · cases same

end Sample

/-- At first one request repairs it, under another id and proof; three hours later none does. -/
theorem application_window_stranded :
    (∃ events w', Machine.Run (server .sample).Step (outcome .sample Sample.stranded) events w' ∧ events.length = 4 ∧
      ∃ copy ∈ (w'.store .supabase).table .application, copy.id = 4) ∧
    (∀ copy ∈ ((outcome .sample Sample.strandedLate).store .supabase).table .application, copy.id ≠ 4) ∧
    ((outcome .sample Sample.strandedLate).store .primary).Unmarked .application 4 := by
  obtain ⟨ran,absent,⟨row,member,named⟩,-⟩ := Sample.stranded_apart
  obtain ⟨settles,stranded⟩ := application_window (reachable_outcome ran) (Table.mem_rows.mp member)
  constructor
  · obtain ⟨events,w',run,-,four,⟨copy,there,id,-⟩,-⟩ := settles Sample.reapplied Sample.reapplied_repeats
      (Sample.calm 30) rfl (Sample.stranded_open (Table.mem_rows.mp member))
    exact ⟨events,w',run,four,copy,there,id.trans named⟩
  · rw [← named] at absent ⊢
    obtain ⟨apart,unmarked,-⟩ := stranded (hours 3) _ _ absent (Sample.stranded_closed row.payload)
      (run_outcome Sample.strandedLate_possible) Sample.strandedLate_since Sample.strandedLate_free
    exact ⟨apart,unmarked⟩

end IntakeApi
