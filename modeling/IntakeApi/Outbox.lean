import IntakeApi.Ledger

/-! The outbox of the primary, one item for each canonical row. It depends on the
insertion of a row and of its item sharing a transaction, and on nothing else
inserting items. -/
namespace IntakeApi

open Interaction Relational Service

/-- Every row has its item, under its digest, and every item its row. -/
structure Outboxed (db : Database) : Prop where
  covered : ∀ kind, ∀ row ∈ db.table kind, ∃ item ∈ db.outbox, item.submissionKind = kind ∧
    item.submissionId = row.id ∧ item.payloadSha256 = row.payloadSha256
  owned : ∀ item ∈ db.outbox, ∃ row ∈ db.table item.submissionKind, row.id = item.submissionId ∧
    row.payloadSha256 = item.payloadSha256

namespace Outboxed

variable {db db' : Database} {kind : StoredSubmissionKind}

theorem empty : Outboxed .empty :=
  ⟨fun _ _ member => (Table.not_mem_empty _ member).elim,
    fun _ member => (Table.not_mem_empty _ member).elim⟩

theorem rewrites (outboxed : Outboxed db) (rewrites : db.Rewrites db') : Outboxed db' where
  covered k row member := by
    obtain ⟨before,here,continues⟩ := rewrites.rows k row member
    obtain ⟨item,listed,sort,id,digest⟩ := outboxed.covered k before here
    obtain ⟨later,listed',same⟩ := rewrites.items_kept item listed
    exact ⟨later,listed',same.submissionKind.trans sort,
      same.submissionId.trans (id.trans continues.id.symm),
      same.payloadSha256.trans (digest.trans continues.payloadSha256.symm)⟩
  owned item member := by
    obtain ⟨before,listed,same⟩ := rewrites.items item member
    obtain ⟨row,here,id,digest⟩ := outboxed.owned before listed
    rw [same.submissionKind]
    obtain ⟨row',here',continues⟩ := rewrites.kept _ row here
    exact ⟨row',here',continues.id.trans (id.trans same.submissionId.symm),
      continues.payloadSha256.trans (digest.trans same.payloadSha256.symm)⟩

theorem inserted {context : SubmissionContext} {now : Timestamp} {fresh : Row kind}
    (outboxed : Outboxed db) (keyed : fresh.payloadSha256 = context.payloadSha256)
    (inserted : Inserted .primary context now fresh db db') : Outboxed db' where
  covered k row member := by
    by_cases same : k = kind
    · subst same
      rcases (inserted.here row).mp member with rfl | old
      · exact ⟨_,(inserted.outbox _).mpr (.inl ⟨rfl,rfl⟩),rfl,rfl,keyed.symm⟩
      · obtain ⟨item,listed,facts⟩ := outboxed.covered k row old
        exact ⟨item,(inserted.outbox _).mpr (.inr listed),facts⟩
    · rw [inserted.elsewhere k same] at member
      obtain ⟨item,listed,facts⟩ := outboxed.covered k row member
      exact ⟨item,(inserted.outbox _).mpr (.inr listed),facts⟩
  owned item member := by
    rcases (inserted.outbox item).mp member with ⟨-,rfl⟩ | old
    · exact ⟨fresh,(inserted.here _).mpr (.inl rfl),rfl,keyed⟩
    · obtain ⟨row,here,facts⟩ := outboxed.owned item old
      by_cases same : item.submissionKind = kind
      · subst same
        exact ⟨row,(inserted.here _).mpr (.inr here),facts⟩
      · rw [inserted.elsewhere _ same]
        exact ⟨row,here,facts⟩

theorem item_unique {a b : OutboxItem} (ha : a ∈ db.outbox) (hb : b ∈ db.outbox)
    (sort : a.submissionKind = b.submissionKind) (id : a.submissionId = b.submissionId) : a = b :=
  Table.eq_of_id ha hb (Prod.ext sort id)

end Outboxed

theorem outboxed {contract : Contract} {w : World} (reachable : Reachable contract w) :
    Outboxed (w.store .primary) ∧ ∀ item, item ∉ (w.store .supabase).outbox := by
  apply @store_invariant _ _ (fun stores => Outboxed (stores .primary) ∧
    ∀ item, item ∉ (stores .supabase).outbox) reachable
  · exact ⟨.empty,fun item => Table.not_mem_empty item⟩
  · intro w i arrival env call stores before change holds
    obtain ⟨primary,mirror⟩ := holds
    have distinct : Connection.supabase ≠ .primary := by decide
    cases change with
    | accept requested followed guarded inserted =>
      rw [Function.update_self, Function.update_of_ne distinct]
      exact ⟨primary.inserted (freshRow_payloadSha256 ..) inserted,mirror⟩
    | copy requested followed guarded inserted =>
      rw [Function.update_self, Function.update_of_ne distinct.symm]
      refine ⟨primary,fun item member => ?_⟩
      rcases (inserted.outbox item).mp member with ⟨creates,-⟩ | old
      · cases creates
      · exact mirror item old
    | mark requested same followed acknowledged =>
      rw [Function.update_self, Function.update_of_ne distinct]
      exact ⟨primary.rewrites (Database.mirrored_rewrites ..),mirror⟩
    | fail requested followed retried =>
      rw [Function.update_self, Function.update_of_ne distinct]
      exact ⟨primary.rewrites (Database.failed_rewrites ..),mirror⟩
    | @verify connection id subject body completing asks =>
      cases connection with
      | primary =>
        rw [Function.update_self, Function.update_of_ne distinct]
        exact ⟨primary.rewrites (Database.verifyUpload_rewrites ..),mirror⟩
      | supabase =>
        rw [Function.update_self, Function.update_of_ne distinct.symm]
        exact ⟨primary,mirror⟩

end IntakeApi
