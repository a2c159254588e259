import IntakeApi.Acknowledgement
import IntakeApi.Footprint
import IntakeApi.Provenance
import IntakeApi.Library.Parties

/-! Create requests under different keys. Each writes its own row and outbox item, and none
of its calls can tell whether the other request has written yet. -/
namespace IntakeApi

open Interaction Relational Service

section Databases

variable {region : Region} {db : Database} {kind : StoredSubmissionKind} {id : Uuid} {digest errorCode : String}

theorem Inserted.agree {target : PersistenceTarget} {context : SubmissionContext} {now : Timestamp}
    {fresh : Row kind} {db' : Database} (inserted : Inserted target context now fresh db db')
    (row : region.rows kind fresh) (item : region.items (.new now kind fresh.id context.payloadSha256)) :
    Database.Agree region db db' where
  tables k other clear := by
    rw [Database.mem_inserted inserted]
    refine ⟨.inr,fun member => member.resolve_left ?_⟩
    intro equal
    cases equal
    exact clear row
  outbox other clear := by
    rw [inserted.outbox]
    refine ⟨.inr,fun member => member.resolve_left ?_⟩
    rintro ⟨-,rfl⟩
    exact clear item

theorem Database.agree_setTable {table : Table (Row kind)}
    (tables : Table.Agree (region.rows kind) (db.table kind) table) :
    Database.Agree region db (db.setTable kind table) := by
  refine ⟨fun other => ?_,.refl _⟩
  by_cases same : other = kind
  · subst same
    rwa [setTable_same]
  · rw [setTable_other db table same]
    exact .refl _

variable (rows : kind ≠ .upload → ∀ row ∈ db.table kind, row.id = id →
  ∀ status, region.rows kind row ∧ region.rows kind (row.setMirrorStatus status))
variable (items : ∀ item, item.submissionKind = kind → item.submissionId = id → region.items item)

include rows items in
theorem Database.mirrored_agree : Database.Agree region db (db.mirrored kind id digest) := by
  have outbox : Table.Agree region.items db.outbox (db.outbox.update (OutboxItem.matches kind id digest)
      OutboxItem.mirrored (fun _ => rfl) (fun _ => rfl)) := by
    refine .updated fun item _ chosen => ?_
    obtain ⟨sort,named⟩ := item.matches_names chosen
    exact ⟨items item sort named,items item.mirrored sort named⟩
  unfold Database.mirrored
  split
  · exact ⟨fun _ => .refl _,outbox⟩
  · next stated =>
    have tables : Database.Agree region db (db.markRow kind id digest) :=
      Database.agree_setTable (.updated fun row member chosen =>
        rows stated row member (row.matches_id chosen) .mirrored)
    exact ⟨tables.tables,outbox⟩

include rows items in
theorem Database.failed_agree (now : Timestamp) :
    Database.Agree region db (db.failed now kind id errorCode) := by
  have outbox : Table.Agree region.items db.outbox (db.outbox.update (OutboxItem.retries kind id)
      (OutboxItem.failed now errorCode) (fun _ => rfl) (fun _ => rfl)) := by
    refine .updated fun item _ chosen => ?_
    obtain ⟨sort,named⟩ := item.retries_names chosen
    exact ⟨items item sort named,items (item.failed now errorCode) sort named⟩
  unfold Database.failed
  split
  · exact ⟨fun _ => .refl _,outbox⟩
  · next stated =>
    have tables : Database.Agree region db (db.failRow kind id) :=
      Database.agree_setTable (.updated fun row member chosen =>
        rows stated row member (of_decide_eq_true chosen) .retryableFailure)
    exact ⟨tables.tables,outbox⟩

end Databases

theorem freshRow_unverified {target : PersistenceTarget} {context : SubmissionContext} {apiNow now : Timestamp}
    {kind : StoredSubmissionKind} (body : Create kind) : (freshRow target context apiNow now body).Unverified := by
  cases kind with
  | upload => nofun
  | _ => trivial

theorem Row.unverified {kind : StoredSubmissionKind} (stated : kind ≠ .upload) (row : Row kind) : row.Unverified := by
  cases kind with
  | upload => exact absurd rfl stated
  | _ => trivial

theorem Stores.agree_update {region : Region} {stores : Stores} {connection : Connection} {db : Database}
    (agree : Database.Agree region (stores connection) db) :
    Stores.AgreeOutside region stores (Function.update stores connection db) := by
  have updated := @Stores.AgreeOutside.update _ _ _ (.refl stores) connection _ _ agree
  rwa [Function.update_eq_self] at updated

section Frame

variable {contract : Contract} {w : World} {i : Nat} {arrival : Arrival} {kind : StoredSubmissionKind}
variable {context : SubmissionContext} {body : Create kind} {id : Uuid}

inductive Target (context : SubmissionContext) (body : Create kind) (history : History) (call : Call)
    (before after : Stores) (id : Uuid) : Prop where
  | accepted (leg : call = primaryLeg kind context body) (fresh : id = context.canonicalId)
      (absent : ∀ row ∈ (before .primary).table kind, row.idempotencyKey ≠ context.idempotencyKey)
      (stored : ∃ row ∈ (after .primary).table kind, row.id = id ∧ row.idempotencyKey = context.idempotencyKey)
  | told (stored : Stored kind) (answered : ⟨primaryLeg kind context body,.ok stored⟩ ∈ history)
      (same : stored.id = id)

/-- A change reaches the request's own row and outbox item only. -/
theorem change_frame (reachable : Reachable contract w) (requested : Requested contract arrival body context)
    {env : Env} {call : Call} {stores : Stores}
    (change : Change contract env arrival (w.history i) w.store call stores) :
    ∃ id, Target context body (w.history i) call w.store stores id ∧
      Stores.AgreeOutside (Lane.mk kind context.idempotencyKey context.canonicalId id).region w.store stores := by
  cases change with
  | accept requested' followed guarded inserted =>
    obtain ⟨rfl,bodies,rfl⟩ := requested.unique requested'
    cases bodies
    refine ⟨_,.accepted rfl rfl inserted.absent ?_,Stores.agree_update (inserted.agree ?_ ?_)⟩
    · rw [Function.update_self]
      exact ⟨_,(inserted.here _).mpr (.inl rfl),freshRow_id ..,freshRow_idempotencyKey ..⟩
    · exact ⟨rfl,freshRow_idempotencyKey ..,freshRow_id ..,freshRow_unverified _⟩
    · exact ⟨rfl,freshRow_id ..⟩
  | @copy _ _ _ stored _ requested' followed guarded inserted =>
    obtain ⟨rfl,bodies,rfl⟩ := requested.unique requested'
    cases bodies
    refine ⟨stored.id,.told stored (by rw [followed]; exact List.mem_cons_self) rfl,
      Stores.agree_update (inserted.agree ?_ ?_)⟩
    · exact ⟨rfl,freshRow_idempotencyKey ..,freshRow_id ..,freshRow_unverified _⟩
    · exact ⟨rfl,freshRow_id ..⟩
  | @mark _ _ _ stored _ requested' same followed acknowledged =>
    obtain ⟨rfl,bodies,rfl⟩ := requested.unique requested'
    cases bodies
    have told : ⟨primaryLeg kind context body,.ok stored⟩ ∈ w.history i := by
      rw [followed]; exact List.mem_cons_of_mem _ List.mem_cons_self
    obtain ⟨own,holds⟩ := stored_row reachable told
    refine ⟨stored.id,.told stored told rfl,Stores.agree_update
      (Database.mirrored_agree ?_ fun _ sort named => ⟨sort,named⟩)⟩
    intro stated row member named status
    obtain rfl := Table.eq_of_id member holds.member (named.trans holds.id.symm)
    exact ⟨⟨rfl,holds.idempotencyKey,named,row.unverified stated⟩,
      ⟨rfl,holds.idempotencyKey,named,Row.unverified stated _⟩⟩
  | @fail _ _ _ stored _ requested' followed retried =>
    obtain ⟨rfl,bodies,rfl⟩ := requested.unique requested'
    cases bodies
    have told : ⟨primaryLeg kind context body,.ok stored⟩ ∈ w.history i := by
      rw [followed]; exact List.mem_cons_of_mem _ List.mem_cons_self
    obtain ⟨own,holds⟩ := stored_row reachable told
    refine ⟨stored.id,.told stored told rfl,Stores.agree_update (Database.failed_agree ?_ ?_ _)⟩
    · intro stated row member named status
      obtain rfl := Table.eq_of_id member holds.member (named.trans holds.id.symm)
      exact ⟨⟨rfl,holds.idempotencyKey,named,row.unverified stated⟩,
        ⟨rfl,holds.idempotencyKey,named,Row.unverified stated _⟩⟩
    · exact fun _ sort named => ⟨sort,named⟩
  | verify completing => cases requested.request.symm.trans completing.request

theorem call_frame (reachable : Reachable contract w) (requested : Requested contract arrival body context)
    {call : Call} {next : call.Answer → Handler Receipt}
    (here : w.sessions[i]? = some ⟨arrival,.running (.call call next)⟩) (env : Env) :
    (respond contract env call w.store).2 = w.store ∨ ∃ id,
      Target context body (w.history i) call w.store (respond contract env call w.store).2 id ∧
      Stores.AgreeOutside (Lane.mk kind context.idempotencyKey context.canonicalId id).region w.store
        (respond contract env call w.store).2 :=
  (answered_change (asked reachable here) env w.store).imp_right fun change =>
    change_frame reachable requested change

end Frame

/-- A request for the row of a lane, under the id drawn for it. -/
structure Lane.Serves (lane : Lane) (arrival : Arrival) : Prop where
  request : ∃ body : Create lane.kind, arrival.request = .create lane.kind body
  key : arrival.admission.idempotencyKey = some lane.key
  fresh : arrival.canonicalId = lane.fresh

theorem Lane.Serves.asks {lane : Lane} {arrival : Arrival} (serves : lane.Serves arrival) {contract : Contract}
    {history : History} {call : Call} (asks : arrival.Asks contract history call) :
    ∃ (body : Create lane.kind) (context : SubmissionContext), Requested contract arrival body context ∧
      context.idempotencyKey = lane.key ∧ context.canonicalId = lane.fresh ∧
      Creation.Asks lane.kind context body history call := by
  obtain ⟨body,request⟩ := serves.request
  cases asks with
  | create request' admitted asks =>
    cases request.symm.trans request'
    have settled := (admitCreate_ok admitted).2
    exact ⟨body,_,⟨request,admitted⟩,Option.some.inj (settled.key.symm.trans serves.key),
      settled.id.trans serves.fresh,asks⟩
  | complete request' => cases request.symm.trans request'

/-- No other request has taken the lane's key or its id, in either store. -/
structure Lane.Reserved (lane : Lane) (stores : Stores) : Prop where
  owned : ∀ connection, ∀ row ∈ (stores connection).table lane.kind,
    row.idempotencyKey = lane.key ↔ row.id = lane.id
  settled : lane.id = lane.fresh ∨ ∃ row ∈ (stores .primary).table lane.kind, row.idempotencyKey = lane.key

/-- Changes of the lane's own row keep it reserved, and so do changes apart from it. -/
theorem Lane.Reserved.kept {lane : Lane} {stores stores' : Stores} (reserved : lane.Reserved stores) {region : Region}
    (agree : Stores.AgreeOutside region stores stores') (retained : stores.Retains stores')
    (inside : ∀ row, region.rows lane.kind row → (row.idempotencyKey = lane.key ↔ row.id = lane.id)) :
    lane.Reserved stores' where
  owned connection row member := by
    by_cases touched : region.rows lane.kind row
    · exact inside row touched
    · exact reserved.owned connection row (((agree connection).tables _ row touched).mpr member)
  settled := by
    refine reserved.settled.imp_right ?_
    rintro ⟨row,member,key⟩
    obtain ⟨later,member',continues⟩ := retained .primary lane.kind row member
    exact ⟨later,member',continues.idempotencyKey.trans key⟩

/-- A session serves a lane that is reserved for it. -/
structure Party (w : World) (i : Nat) (arrival : Arrival) (lane : Lane) : Prop where
  here : ∃ progress, w.sessions[i]? = some ⟨arrival,progress⟩
  serves : lane.Serves arrival
  reserved : lane.Reserved w.store

section Party

variable {contract : Contract} {w : World} {i : Nat} {arrival : Arrival} {lane other : Lane}

theorem Party.running (party : Party w i arrival lane) {call : Call} (calls : w.Calls i call) :
    ∃ next, w.sessions[i]? = some ⟨arrival,.running (.call call next)⟩ := by
  obtain ⟨progress,here⟩ := party.here
  obtain ⟨arrival',next,here'⟩ := calls
  cases here.symm.trans here'
  exact ⟨next,here'⟩

/-- The row a request is told of is the lane's. -/
theorem Party.told (party : Party w i arrival lane) (reachable : Reachable contract w) {context : SubmissionContext}
    {body : Create lane.kind} {stored : Stored lane.kind} (key : context.idempotencyKey = lane.key)
    (answered : ⟨primaryLeg lane.kind context body,.ok stored⟩ ∈ w.history i) : stored.id = lane.id := by
  obtain ⟨row,holds⟩ := stored_row reachable answered
  exact holds.id.symm.trans ((party.reserved.owned .primary row holds.member).mp (holds.idempotencyKey.trans key))

theorem Party.within (party : Party w i arrival lane) (reachable : Reachable contract w) {connection : Connection}
    {command : Command} (calls : w.Calls i (.persist connection command)) : command.Within lane := by
  obtain ⟨next,here⟩ := party.running calls
  obtain ⟨kind,_,_,_⟩ := lane
  obtain ⟨body,context,requested,key,fresh,asks⟩ := party.serves.asks (asked reachable here)
  generalize traced : w.history i = history at asks
  generalize called : Call.persist connection command = call at asks
  have told {stored : Stored kind} (member : ⟨primaryLeg kind context body,.ok stored⟩ ∈ history) :
      stored.id = _ := party.told reachable key (traced ▸ member)
  cases asks with
  | primary => cases called; exact ⟨rfl,key,.inl fresh⟩
  | mirror => cases called; exact ⟨rfl,key,.inr (told List.mem_cons_self)⟩
  | fail => cases called; exact ⟨rfl,told (List.mem_cons_of_mem _ List.mem_cons_self)⟩
  | mark => cases called; exact ⟨rfl,told (List.mem_cons_of_mem _ List.mem_cons_self)⟩
  | sign => cases called

/-- Whatever a session calls sees nothing of another lane. -/
theorem Party.avoids (party : Party w i arrival lane) (reachable : Reachable contract w) (apart : lane.Apart other)
    {call : Call} (calls : w.Calls i call) : call.Avoids contract other.region := by
  cases call with
  | persist connection command => exact fun now => (party.within reachable calls).avoids apart contract now
  | createSignedUploadUrl => trivial
  | verifyObject => trivial

/-- Whatever a session calls changes only its lane. -/
theorem Party.frame (party : Party w i arrival lane) (reachable : Reachable contract w) {call : Call}
    (calls : w.Calls i call) (env : Env) :
    Stores.AgreeOutside lane.region w.store (respond contract env call w.store).2 := by
  obtain ⟨next,here⟩ := party.running calls
  obtain ⟨body,context,requested,key,fresh,-⟩ := party.serves.asks (asked reachable here)
  rcases call_frame reachable requested here env with quiet | ⟨id,target,agree⟩
  · rw [quiet]
    exact .refl _
  · have same : lane.id = id := by
      cases target with
      | accepted leg named absent stored =>
        refine (party.reserved.settled.resolve_right ?_).trans (fresh.symm.trans named.symm)
        rintro ⟨row,member,taken⟩
        exact absent row member (taken.trans key.symm)
      | told stored answered named => exact (party.told reachable key answered).symm.trans named
    subst same
    rw [key, fresh] at agree
    exact agree

theorem Party.step_frame (party : Party w i arrival lane) (reachable : Reachable contract w)
    {event : Event Env Arrival} {w' : World} (own : event.of i = true) (stepped : (server contract).Step w event w') :
    Stores.AgreeOutside lane.region w.store w'.store := by
  rcases stepped.quiet_or_called own with quiet | ⟨call,env,calls,called⟩
  · rw [quiet]
    exact .refl _
  · rw [called]
    exact party.frame reachable calls env

theorem Party.kept (party : Party w i arrival lane) {event : Event Env Arrival} {w' : World}
    (stepped : (server contract).Step w event w') {region : Region}
    (agree : Stores.AgreeOutside region w.store w'.store)
    (inside : ∀ row, region.rows lane.kind row → (row.idempotencyKey = lane.key ↔ row.id = lane.id)) :
    Party w' i arrival lane where
  here := by
    obtain ⟨progress,here⟩ := party.here
    obtain ⟨⟨_,progress'⟩,here',rfl⟩ := ((server contract).step_grows _ _ _ stepped).arrivals i _ here
    exact ⟨progress',here'⟩
  serves := party.serves
  reserved := party.reserved.kept agree
    (Server.step_related Stores.retains_refl (respond_retains contract) stepped) inside

end Party

namespace Lane.Apart

variable {lane other : Lane} (apart : lane.Apart other)

include apart in
/-- No row and no item belongs to both lanes. -/
theorem meet {s t : Stores} (first : Stores.AgreeOutside lane.region s t)
    (second : Stores.AgreeOutside other.region s t) :
    Stores.AgreeOutside .none s t := by
  refine fun connection => ⟨fun kind row _ => ?_,fun item _ => ?_⟩
  · by_cases inside : lane.region.rows kind row
    · exact ((second connection).tables kind) row fun both =>
        apart.id (inside.1.symm.trans both.1) (inside.2.2.1.symm.trans both.2.2.1)
    · exact ((first connection).tables kind) row inside
  · by_cases inside : lane.region.items item
    · exact (second connection).outbox item fun both =>
        apart.id (inside.1.symm.trans both.1) (inside.2.symm.trans both.2)
    · exact (first connection).outbox item inside

include apart in
theorem outside (row : Row lane.kind) (inside : other.region.rows lane.kind row) :
    row.idempotencyKey = lane.key ↔ row.id = lane.id := by
  obtain ⟨sort,key,id,-⟩ := inside
  refine iff_of_false (fun own => apart.key sort ?_) fun own => apart.id sort ?_
  · exact own.symm.trans key
  · exact own.symm.trans id

end Lane.Apart

theorem Lane.inside (lane : Lane) (row : Row lane.kind) (inside : lane.region.rows lane.kind row) :
    row.idempotencyKey = lane.key ↔ row.id = lane.id :=
  iff_of_true inside.2.1 inside.2.2.1

structure Parties (contract : Contract) (i j : Nat) (a b : Arrival) (lane other : Lane) (w : World) : Prop where
  reachable : Reachable contract w
  left : Party w i a lane
  right : Party w j b other

theorem parted {contract : Contract} {i j : Nat} {a b : Arrival} {lane other : Lane} (distinct : i ≠ j)
    (apart : lane.Apart other) : Parted (server contract) (Stores.AgreeOutside .none) (Stores.AgreeOutside lane.region)
      (Stores.AgreeOutside other.region) (Parties contract i j a b lane other) i j where
  distinct := distinct
  even := ⟨.refl,.symm,.trans⟩
  left := ⟨.refl,.symm,.trans⟩
  right := ⟨.refl,.symm,.trans⟩
  meet _ _ first second := apart.meet first second
  congruent env call _ _ agree := by
    refine respond_agree ?_ env agree
    cases call with
    | persist connection command => exact fun now => avoids_none _
    | createSignedUploadUrl => trivial
    | verifyObject => trivial
  writes _ _ env parties calls := parties.left.frame parties.reachable calls env
  writes' _ _ env parties calls := parties.right.frame parties.reachable calls env
  clear _ _ env _ parties calls agree :=
    respond_agree (parties.left.avoids parties.reachable apart calls) env agree
  clear' _ _ env _ parties calls agree :=
    respond_agree (parties.right.avoids parties.reachable apart.symm calls) env agree
  kept w event w' parties own stepped := by
    refine ⟨parties.reachable.next stepped,?_,?_⟩ <;> rcases Bool.or_eq_true_iff.mp own with own | own
    · exact parties.left.kept stepped (parties.left.step_frame parties.reachable own stepped) lane.inside
    · exact parties.left.kept stepped (parties.right.step_frame parties.reachable own stepped) apart.outside
    · exact parties.right.kept stepped (parties.left.step_frame parties.reachable own stepped) apart.symm.outside
    · exact parties.right.kept stepped (parties.right.step_frame parties.reachable own stepped) other.inside

section Reserve

def Stores.Unused (stores : Stores) (kind : StoredSubmissionKind) (id : Uuid) : Prop :=
  ∀ connection, ∀ row ∈ (stores connection).table kind, row.id ≠ id

/-- The lane of a request: the row under its key, or the one it would store there. -/
def reserve (stores : Stores) (kind : StoredSubmissionKind) (key : String) (fresh : Uuid) : Lane :=
  ⟨kind,key,fresh,(((stores .primary).table kind).findKey key).elim fresh fun row => row.id⟩

variable {contract : Contract} {w : World} {kind : StoredSubmissionKind} {key : String} {fresh : Uuid}

theorem reserve_cases (stores : Stores) (kind : StoredSubmissionKind) (key : String) (fresh : Uuid) :
    (∃ row ∈ (stores .primary).table kind, row.idempotencyKey = key ∧ (reserve stores kind key fresh).id = row.id) ∨
    (reserve stores kind key fresh).id = fresh ∧ ∀ row ∈ (stores .primary).table kind, row.idempotencyKey ≠ key := by
  unfold reserve
  cases found : ((stores .primary).table kind).findKey key with
  | some row =>
    obtain ⟨member,same⟩ := Table.findKey_some.mp found
    exact .inl ⟨row,member,same,rfl⟩
  | none => exact .inr ⟨rfl,Table.findKey_none.mp found⟩

theorem reserve_reserved (reachable : Reachable contract w) (unused : w.store.Unused kind fresh) :
    (reserve w.store kind key fresh).Reserved w.store := by
  -- The mirror holds copies only, so it is enough to look at the primary.
  have mirrored (P : Uuid → String → Prop) (connection : Connection)
      (each : ∀ row ∈ (w.store .primary).table kind, P row.id row.idempotencyKey) :
      ∀ row ∈ (w.store connection).table kind, P row.id row.idempotencyKey := by
    intro row member
    cases connection with
    | primary => exact each row member
    | supabase =>
      obtain ⟨original,here,id,same,-⟩ := copied_row reachable member
      rw [← id, ← same]
      exact each original here
  rcases reserve_cases w.store kind key fresh with ⟨own,member,same,id⟩ | ⟨id,absent⟩
  · refine ⟨fun connection => ?_,.inr ⟨own,member,same⟩⟩
    rw [id]
    refine mirrored (fun id' key' => key' = key ↔ id' = own.id) connection fun row here => ⟨?_,?_⟩
    · intro taken
      rw [Table.eq_of_key here member (taken.trans same.symm)]
    · intro taken
      rw [Table.eq_of_id here member taken]
      exact same
  · refine ⟨fun connection row here => ?_,.inl id⟩
    rw [id]
    exact iff_of_false (mirrored (fun _ key' => key' ≠ key) connection absent row here)
      (unused connection row here)

theorem reserve_apart {stores : Stores} {kind' : StoredSubmissionKind} {key' : String} {fresh' : Uuid}
    (unused : stores.Unused kind fresh) (unused' : stores.Unused kind' fresh')
    (keys : kind = kind' → key ≠ key') (ids : kind = kind' → fresh ≠ fresh') :
    (reserve stores kind key fresh).Apart (reserve stores kind' key' fresh') := by
  have first := reserve_cases stores kind key fresh
  have second := reserve_cases stores kind' key' fresh'
  refine ⟨keys,?_,?_,?_⟩ <;> intro same <;> cases same <;> have keys := keys rfl <;> have ids := ids rfl
  · rcases first with ⟨row,member,own,id⟩ | ⟨id,-⟩ <;> rcases second with ⟨row',member',own',id'⟩ | ⟨id',-⟩ <;>
      rw [id, id']
    · intro equal
      rw [Table.eq_of_id member member' equal] at own
      exact keys (own.symm.trans own')
    · exact unused' .primary row member
    · exact (unused .primary row' member').symm
    · exact ids
  · rcases second with ⟨row',member',-,id'⟩ | ⟨id',-⟩ <;> rw [id']
    · exact (unused .primary row' member').symm
    · exact ids
  · rcases first with ⟨row,member,-,id⟩ | ⟨id,-⟩ <;> rw [id]
    · exact (unused' .primary row member).symm
    · exact ids.symm

end Reserve
section Landed

variable {contract : Contract} {w : World} {i : Nat} {arrival : Arrival} {kind : StoredSubmissionKind}
variable {progress : Progress Call Call.Answer ApiFailure Receipt} {body : Create kind} {id : Uuid}

inductive Landed (contract : Contract) (w : World) (i : Nat) (kind : StoredSubmissionKind) (id : Uuid) : Prop where
  | stored {entry : Entry} {context : SubmissionContext} {body : Create kind} {row : Row kind}
      (logged : entry ∈ w.log) (own : entry.session = i) (leg : entry.exchange.1 = primaryLeg kind context body)
      (before : row ∉ (entry.before .primary).table kind)
      (after : row ∈ ((server contract).after entry .primary).table kind) (named : row.id = id)
  | told {context : SubmissionContext} {body : Create kind} {stored : Stored kind}
      (answered : ⟨primaryLeg kind context body,.ok stored⟩ ∈ w.history i) (named : stored.id = id)

def landing (contract : Contract) (w : World) (i : Nat) (kind : StoredSubmissionKind) : Region where
  rows k row := k = kind ∧ Landed contract w i kind row.id
  items item := item.submissionKind = kind ∧ Landed contract w i kind item.submissionId

theorem entry_frame (reachable : Reachable contract w) (here : w.sessions[i]? = some ⟨arrival,progress⟩)
    (request : arrival.request = .create kind body) {entry : Entry} (logged : entry ∈ w.log)
    (own : entry.session = i) : (server contract).after entry = entry.before ∨
      ∃ context id, Requested contract arrival body context ∧ Landed contract w i kind id ∧
        Stores.AgreeOutside (Lane.mk kind context.idempotencyKey context.canonicalId id).region entry.before
          ((server contract).after entry) := by
  subst own
  obtain ⟨newer,older,split⟩ := List.append_of_mem logged
  obtain ⟨⟨earlier,arrival',next,begun,there,store,-,grown⟩,-⟩ := Server.log_made reachable newer entry older split
  obtain ⟨session,here',owner⟩ := grown.arrivals _ _ there
  cases here.symm.trans here'
  cases owner
  cases asked begun there with
  | complete request' => cases request.symm.trans request'
  | @create _ _ context request' admitted =>
    cases request.symm.trans request'
    have framed := call_frame begun ⟨request,admitted⟩ there entry.env
    rw [store] at framed
    refine framed.imp_right ?_
    rintro ⟨id,target,agree⟩
    refine ⟨context,id,⟨request,admitted⟩,?_,agree⟩
    cases target with
    | accepted leg _ absent stored =>
      obtain ⟨row,after,named,key⟩ := stored
      exact .stored logged rfl leg (fun before => absent row before key) after named
    | told stored answered named =>
      obtain ⟨newer,later⟩ := grown.history entry.session
      exact .told (later ▸ List.mem_append_right _ answered) named

theorem landed_row (reachable : Reachable contract w) (here : w.sessions[i]? = some ⟨arrival,progress⟩)
    (request : arrival.request = .create kind body) (landed : Landed contract w i kind id) :
    ∃ row ∈ (w.store .primary).table kind, row.id = id ∧
      arrival.admission.idempotencyKey = some row.idempotencyKey := by
  cases landed with
  | @stored entry _ _ row logged own leg before after named =>
    rcases entry_frame reachable here request logged own with quiet | ⟨context,id',requested,-,agree⟩
    · rw [quiet] at after
      exact absurd after before
    · obtain ⟨-,key,-⟩ : (Lane.mk kind context.idempotencyKey context.canonicalId id').region.rows kind row := by
        by_contra outside
        exact before (((agree .primary).tables kind row outside).mpr after)
      have kept := after_retained reachable logged
      obtain ⟨later,member,continues⟩ := kept .primary kind row after
      refine ⟨later,member,continues.id.trans named,?_⟩
      rw [continues.idempotencyKey, key]
      exact (admitCreate_ok requested.admitted).2.key
  | @told context _ stored answered named =>
    obtain ⟨row,holds⟩ := stored_row reachable answered
    refine ⟨row,holds.member,holds.id.trans named,?_⟩
    rw [holds.idempotencyKey]
    obtain ⟨entry,logged,rfl,same⟩ := (World.mem_history w).mp answered
    obtain ⟨session,here',-,earlier,-,allowed⟩ := logged_asks reachable logged
    cases here.symm.trans here'
    rw [same] at allowed
    cases allowed with
    | complete request' => cases request.symm.trans request'
    | create _ admitted asks =>
      obtain ⟨-,⟨-,rfl⟩ | ⟨elsewhere,-⟩⟩ := asks.stored rfl
      · exact (admitCreate_ok admitted).2.key
      · cases elsewhere

end Landed
structure Creating (w : World) (i : Nat) (arrival : Arrival) (kind : StoredSubmissionKind) (key : String) :
    Prop where
  here : ∃ progress, w.sessions[i]? = some ⟨arrival,progress⟩
  request : ∃ body : Create kind, arrival.request = .create kind body
  key : arrival.admission.idempotencyKey = some key
  unused : w.store.Unused kind arrival.canonicalId

theorem Creating.party {contract : Contract} {w : World} {i : Nat} {arrival : Arrival} {kind : StoredSubmissionKind}
    {key : String} (creating : Creating w i arrival kind key) (reachable : Reachable contract w) :
    Party w i arrival (reserve w.store kind key arrival.canonicalId) where
  here := creating.here
  serves := ⟨creating.request,creating.key,rfl⟩
  reserved := reserve_reserved reachable creating.unused

theorem Creating.distinct {w : World} {i j : Nat} {a b : Arrival} {kind kind' : StoredSubmissionKind}
    {key key' : String} (first : Creating w i a kind key) (second : Creating w j b kind' key')
    (keys : (kind,key) ≠ (kind',key')) : i ≠ j := by
  rintro rfl
  obtain ⟨_,here⟩ := first.here
  obtain ⟨_,here'⟩ := second.here
  cases here.symm.trans here'
  obtain ⟨_,request⟩ := first.request
  obtain ⟨_,request'⟩ := second.request
  cases request.symm.trans request'
  exact keys (Prod.ext rfl (Option.some.inj (first.key.symm.trans second.key)))

/-- Create requests under different keys do not interfere: whatever order their steps are taken
in, stores and responses are those of either request running first. A request changes nothing
but the row and the outbox item it landed under. -/
theorem requests_independent {contract : Contract} {w : World} (reachable : Reachable contract w) :
    (∀ (i j : Nat) (a b : Arrival) (kind kind' : StoredSubmissionKind) (key key' : String),
      Creating w i a kind key → Creating w j b kind' key' → (kind,key) ≠ (kind',key') →
      (kind,a.canonicalId) ≠ (kind',b.canonicalId) →
      ∀ (events : List (Event Env Arrival)) (w' : World),
        (∀ event ∈ events, event.of i = true ∨ event.of j = true) →
        Machine.Run (server contract).Step w events w' →
        (∃ t, Machine.Run (server contract).Step w (events.filter (Event.of i) ++ events.filter (Event.of j)) t ∧
          w'.Same (Stores.AgreeOutside .none) t) ∧
        ∃ t, Machine.Run (server contract).Step w (events.filter (Event.of j) ++ events.filter (Event.of i)) t ∧
          w'.Same (Stores.AgreeOutside .none) t) ∧
    (∀ (i : Nat) (arrival : Arrival) (progress : Progress Call Call.Answer ApiFailure Receipt)
      (kind : StoredSubmissionKind) (body : Create kind), w.sessions[i]? = some ⟨arrival,progress⟩ →
      arrival.request = .create kind body →
      (∀ id id', Landed contract w i kind id → Landed contract w i kind id' → id = id') ∧
      ∀ entry ∈ w.log, entry.session = i →
        Stores.AgreeOutside (landing contract w i kind) entry.before ((server contract).after entry)) := by
  refine ⟨?_,?_⟩
  · intro i j a b kind kind' key key' first second keys ids events w' each run
    have apart := reserve_apart first.unused second.unused
      (fun (same : kind = kind') (equal : key = key') => keys (Prod.ext same equal))
      (fun (same : kind = kind') (equal : a.canonicalId = b.canonicalId) => ids (Prod.ext same equal))
    exact (parted (first.distinct second keys) apart).serial
      ⟨reachable,first.party reachable,second.party reachable⟩ each run
  · intro i arrival progress kind body here request
    refine ⟨fun id id' landed landed' => ?_,fun entry logged own => ?_⟩
    · obtain ⟨row,member,rfl,key⟩ := landed_row reachable here request landed
      obtain ⟨row',member',rfl,key'⟩ := landed_row reachable here request landed'
      rw [Table.eq_of_key member member' (Option.some.inj (key.symm.trans key'))]
    · rcases entry_frame reachable here request logged own with quiet | ⟨context,id,requested,landed,agree⟩
      · rw [quiet]
        exact .refl _
      · refine fun connection => ⟨fun k row outside => ?_,fun item outside => ?_⟩
        · refine ((agree connection).tables k) row fun inside => outside ⟨inside.1,?_⟩
          rw [inside.2.2.1]
          exact landed
        · refine (agree connection).outbox item fun inside => outside ⟨inside.1,?_⟩
          rw [inside.2]
          exact landed

namespace Sample

/-- A pre-interest and an upload intent under one key, which also drew the same id. -/
def arrivals : List (Event Env Arrival) := [.arrive (anonymous 1),.arrive (intent 1 .resume)]

/-- The mirror is lost on the way for the first of them. -/
def interleaved : List (Event Env Arrival) :=
  [.advance 0 (calm 10),.advance 1 (calm 11),.advance 0 { calm 12 with faults := ⟨some 1,.acknowledged⟩ },
    .advance 1 (calm 13),.advance 0 (calm 14),.advance 1 (calm 15),.reply 0,.advance 1 (calm 16),.reply 1]

theorem creating_anonymous : Creating (outcome .sample arrivals) 0 (anonymous 1) .preInterest "intake-key-000001" :=
  ⟨⟨_,rfl⟩,⟨_,rfl⟩,rfl,fun _ row member => (Table.not_mem_empty row member).elim⟩

theorem creating_intent : Creating (outcome .sample arrivals) 1 (intent 1 .resume) .upload "intake-key-000001" :=
  ⟨⟨_,rfl⟩,⟨_,rfl⟩,rfl,fun _ row member => (Table.not_mem_empty row member).elim⟩

end Sample

theorem requests_independent_interleaved :
    (∃ t, Machine.Run (server .sample).Step (outcome .sample Sample.arrivals)
      (Sample.interleaved.filter (Event.of 1) ++ Sample.interleaved.filter (Event.of 0)) t ∧
      (outcome .sample (Sample.arrivals ++ Sample.interleaved)).Same (Stores.AgreeOutside .none) t) ∧
    ∀ entry ∈ (outcome .sample (Sample.arrivals ++ Sample.interleaved)).log, entry.session = 1 →
      Stores.AgreeOutside (landing .sample (outcome .sample (Sample.arrivals ++ Sample.interleaved)) 1 .upload)
        entry.before
        ((server .sample).after entry) := by
  have ran : possible .sample (Sample.arrivals ++ Sample.interleaved) = true ∧
      ((outcome .sample (Sample.arrivals ++ Sample.interleaved)).sessions[1]?.bind Session.reply?) =
        some (.error (.ofExternal .unavailable)) := by
    decide +kernel
  obtain ⟨ended,left⟩ := ran
  have alone := (requests_independent (reachable_outcome (possible_append_left ended))).1 0 1 _ _ _ _ _ _ Sample.creating_anonymous
    Sample.creating_intent (by decide) (by decide) Sample.interleaved _ (by decide) (run_outcome ended)
  refine ⟨alone.2,?_⟩
  exact ((requests_independent (reachable_outcome ended)).2 1 (Sample.intent 1 .resume) _ _ _
    (@session_outcome .sample _ 1 _ _ ended rfl left) rfl).2

end IntakeApi
