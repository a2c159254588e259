import IntakeApi.Mirror

/-! One database and the commands it serves, in any order and for whatever reason they are
called. The primary of a running API is such a database. -/
namespace IntakeApi

open Interaction Relational Transaction Service

def serve (contract : Contract) (env : Env) (command : Command) (db : Database) :
    Except DataError command.Output × Database :=
  run (Statement.exec env.databaseNow) .database env.faults (command.transaction contract env.apiNow) db

/-- A command with the clocks and faults it met, and the database it found. -/
structure Turn where
  env : Env
  command : Command
  before : Database

namespace Turn

variable (contract : Contract) (turn : Turn)

def commits : Bool :=
  Transaction.commits (Statement.exec turn.env.databaseNow) .database turn.env.faults
    (turn.command.transaction contract turn.env.apiNow) turn.before

def after : Database := (serve contract turn.env turn.command turn.before).2

end Turn

/-- The turns of a database that was empty at first, newest first. -/
inductive Served (contract : Contract) : List Turn → Database → Prop where
  | nil : Served contract [] .empty
  | cons (env : Env) (command : Command) (served : Served contract turns db) :
      Served contract (⟨env,command,db⟩ :: turns) (Turn.after contract ⟨env,command,db⟩)

inductive Effect (contract : Contract) (env : Env) (db : Database) : Command → Database → Prop where
  | replay {target : PersistenceTarget} {kind : StoredSubmissionKind} {context : SubmissionContext}
      {body : Create kind} : Effect contract env db (.store target kind context body) db
  | insert {target : PersistenceTarget} {kind : StoredSubmissionKind} {context : SubmissionContext}
      {body : Create kind} {db' : Database}
      (inserted : Inserted target context env.databaseNow
        (freshRow target context env.apiNow env.databaseNow body) db db') :
      Effect contract env db (.store target kind context body) db'
  | mark {kind : StoredSubmissionKind} {id : Uuid} {digest : String}
      (acknowledged : db.acknowledges kind id digest = true) :
      Effect contract env db (.markMirrored kind id digest) (db.mirrored kind id digest)
  | fail {kind : StoredSubmissionKind} {id : Uuid} {errorCode : String}
      (coded : isErrorCode errorCode = true) (retried : db.retries kind id = true) :
      Effect contract env db (.recordMirrorFailure kind id errorCode)
        (db.failed env.databaseNow kind id errorCode)
  | look {id : Uuid} {subject : Option VerifiedSubject} :
      Effect contract env db (.pendingUpload id subject) db
  | verify {id : Uuid} {subject : Option VerifiedSubject} {digest : String} :
      Effect contract env db (.verifyUpload id subject digest)
        (db.verifyUpload env.databaseNow id (subject.map VerifiedSubject.value) digest)

theorem Turn.uncommitted {contract : Contract} {turn : Turn} (uncommitted : turn.commits contract = false) :
    turn.after contract = turn.before := by
  obtain ⟨error,equal⟩ := run_uncommitted uncommitted
  exact congrArg Prod.snd equal

theorem Turn.committed {contract : Contract} {turn : Turn} (committed : turn.commits contract = true) :
    Effect contract turn.env turn.before turn.command (turn.after contract) := by
  obtain ⟨env,command,db⟩ := turn
  obtain ⟨value,db',performed,changed⟩ := run_committed committed
  change Effect contract env db command (serve contract env command db).2
  rw [serve, changed]
  cases command with
  | store target kind context body =>
    obtain ⟨-,row,replayed,-,⟨-,rfl,-⟩ | ⟨-,-,inserted⟩⟩ := store_performed performed
    · exact .replay
    · exact .insert inserted
  | markMirrored kind id digest =>
    change perform env.databaseNow (markMirrored kind id digest) db = _ at performed
    rw [perform_markMirrored] at performed
    split at performed
    · next acknowledged => cases performed; exact .mark acknowledged
    · cases performed
  | recordMirrorFailure kind id errorCode =>
    change perform env.databaseNow (recordMirrorFailure kind id errorCode) db = _ at performed
    rw [perform_recordMirrorFailure] at performed
    split at performed
    · next coded =>
      split at performed
      · next retried => cases performed; exact .fail coded retried
      · cases performed
    · cases performed
  | pendingUpload id subject =>
    change perform env.databaseNow (pendingUpload id subject) db = _ at performed
    rw [perform_pendingUpload] at performed
    split at performed
    · cases performed
    · cases performed; exact .look
  | verifyUpload id subject digest =>
    change perform env.databaseNow (verifyUpload id subject digest) db = _ at performed
    rw [perform_verifyUpload] at performed
    split at performed
    · split at performed
      · cases performed; exact .verify
      · cases performed
    · cases performed

/-- An invariant of a database and its turns needs to be checked only where a command
takes effect, and kept by turns that do not. -/
theorem Served.invariant {contract : Contract} {I : List Turn → Database → Prop}
    (empty : I [] .empty)
    (quiet : ∀ (turn : Turn) turns, turn.commits contract = false → I turns turn.before →
      I (turn :: turns) turn.before)
    (effect : ∀ env command db db' turns, Turn.commits contract ⟨env,command,db⟩ = true →
      Effect contract env db command db' → I turns db → I (⟨env,command,db⟩ :: turns) db')
    {turns : List Turn} {db : Database} (served : Served contract turns db) : I turns db := by
  induction served with
  | nil => exact empty
  | @cons turns db env command served ih =>
    cases committed : Turn.commits contract ⟨env,command,db⟩ with
    | false =>
      rw [Turn.uncommitted committed]
      exact quiet _ _ committed ih
    | true => exact effect env command db _ turns committed (Turn.committed committed) ih

def turnsOf (connection : Connection) (log : List Entry) : List Turn :=
  log.filterMap fun entry => match entry.exchange.1 with
    | .persist other command =>
      if other = connection then some ⟨entry.env,command,entry.before connection⟩ else none
    | _ => none

/-- Each store of the API serves the commands of its log. -/
theorem served {contract : Contract} {w : World} (reachable : Reachable contract w)
    (connection : Connection) : Served contract (turnsOf connection w.log) (w.store connection) := by
  apply @Server.state_invariant _ _ _ _ _ _ _ (server contract) _ (fun stores (log : List Entry) =>
    Served contract (turnsOf connection log) (stores connection)) _ reachable
  · exact .nil
  · intro w i arrival call next env before here holds
    cases call with
    | persist other command =>
      change Served contract (turnsOf connection (_ :: w.log))
        (Function.update w.store other (serve contract env command (w.store other)).2 connection)
      by_cases same : other = connection
      · subst same
        simp only [turnsOf, List.filterMap_cons, if_true, Function.update_self]
        exact .cons env command holds
      · rw [Function.update_of_ne (Ne.symm same)]
        simp only [turnsOf, List.filterMap_cons, same, if_false]
        exact holds
    | createSignedUploadUrl objectKey => exact holds
    | verifyObject expected => exact holds

end IntakeApi
