import CBrain.Knowledge.Noninterference
import CBrain.Knowledge.TenantPublishing

/-! # What an ingest leaves in the store

    After an ingest that reports a publication, the live chunks of the source
    should be the ones it returned, with the access list and the provenance of
    its document.

    * `Holds` : this, for what a store loads.

    The in-memory store has it always.  The PostgreSQL store has it exactly
    when the source did not hold the text before: it takes the digest of the
    text for all of the document. -/

namespace CBrain.Knowledge

/-- The live chunks of the document's source are the ones of `chunk_ids`, each
    with what the document says of access and provenance. -/
structure Holds (find : String → Option KnowledgeChunk) (document : SourceDocument)
    (chunk_ids : List String) : Prop where
  only : ∀ {chunk_id chunk}, find chunk_id = some chunk → chunk.key = document.key →
    chunk_id ∈ chunk_ids
  loadable : ∀ chunk_id ∈ chunk_ids, ∃ chunk, find chunk_id = some chunk ∧
    chunk.key = document.key ∧ chunk.acl_principals = document.acl_principals ∧
    chunk.provenance = document.provenance

theorem PartOf_publication {p : Publication} {chunk : KnowledgeChunk} (h : chunk ∈ p.chunks) :
    chunk.acl_principals = p.document.acl_principals ∧ chunk.provenance = p.document.provenance := by
  have hpart := p.parts chunk h
  exact ⟨hpart.acl_principals.trans p.describes.acl_principals,
    hpart.provenance.trans p.describes.provenance⟩

/-! ## Section 1: The in-memory store -/

namespace InMemoryKnowledgeStore

theorem holds_written {store : InMemoryKnowledgeStore} (hc : store.Consistent) (p : Publication) :
    Holds (store.written p).findChunk p.document p.chunk_ids := by
  have hrevision : ∀ {chunk : KnowledgeChunk}, chunk.key = p.key →
      (store.written p).revisions.get? chunk.key = some p.revision := by
    intro chunk hkey
    rw [hkey]
    exact Table.get?_set_self _ _ _
  constructor
  · intro chunk_id chunk hfind hkey
    obtain ⟨hget, -⟩ := findChunk_eq_some.mp hfind
    rcases chunk_of_written hc hget with ⟨hmem, hid⟩ | ⟨hother, -⟩
    · rw [← hid]
      exact List.mem_map_of_mem hmem
    · exact absurd hkey hother
  · intro chunk_id hmem
    obtain ⟨chunk, hchunk, rfl⟩ := List.mem_map.mp hmem
    -- The last chunk under an id is the one that stays.
    obtain ⟨stored, hstored, hid, hget⟩ := Registry.get?_putAll_of_mem
      (store.chunks.removeAll ((store.live_chunks.get? p.key).getD [])) hchunk
    have hkey : stored.key = p.key := Publication.key_of_mem hstored
    obtain ⟨hacl, hprovenance⟩ := PartOf_publication hstored
    refine ⟨stored, findChunk_eq_some.mpr ⟨hget, p.revision, hrevision hkey,
      p.describes.tombstoned⟩, hkey, hacl, hprovenance⟩

/-- After any history, an ingest that publishes leaves its chunks. -/
theorem holds_of_ingest {ts : List (IngestTransition InMemoryKnowledgeStore)}
    {st : IngestState InMemoryKnowledgeStore} (hrun : IngestRun publisher empty ts st)
    {pipeline : IngestionPipeline} {document : SourceDocument} {created_at : JsonFloat}
    {store' : InMemoryKnowledgeStore} {result : IngestionResult}
    (h : pipeline.ingest publisher st.store document created_at = .ok (store', result))
    (hpublished : result.idempotent = false) :
    Holds store'.findChunk document result.chunk_ids := by
  rcases ingest_ok h with ⟨-, hsame⟩ | ⟨p, n, hbegin, hpublish, rfl⟩
  · rw [hsame] at hpublished
    cases hpublished
  · obtain ⟨-, rfl, -⟩ := begin_pending hbegin
    obtain ⟨rfl, -⟩ := publishRevision_ok hpublish
    exact holds_written (consistent_of_run hrun) p.publication

end InMemoryKnowledgeStore

/-! ## Section 2: The PostgreSQL store -/

namespace PostgresKnowledgeStore

theorem findChunk_eq_some {store : PostgresKnowledgeStore} {chunk_id : String}
    {chunk : KnowledgeChunk} :
    store.findChunk chunk_id = some chunk ↔
      store.chunks.get? chunk_id = some chunk ∧
        ∃ revision, store.getRevision chunk.key = some revision ∧
          revision.source_revision = chunk.source_revision ∧ revision.tombstoned = false := by
  unfold findChunk
  rw [Option.filter_eq_some_iff]
  refine and_congr_right fun _ => ?_
  unfold isLive
  cases hrevision : store.getRevision chunk.key with
  | none => simp
  | some revision => simp

/-- A publication that is written is what its source holds from then on. -/
theorem holds_of_wrote {store store' : PostgresKnowledgeStore} (hc : store.Consistent)
    {p : Publication} (hw : Wrote store store' p)
    (hnext : p.revision.source_revision = store.heldNumber p.revision.key + 1) :
    Holds store'.findChunk p.document p.chunk_ids := by
  obtain ⟨time, hlatest⟩ := getRevision_of_wrote hw hnext
  have hkey : p.revision.key = p.key := key_of_publication p
  constructor
  · intro chunk_id chunk hfind hsource
    obtain ⟨hget, revision, hrevision, hnumber, -⟩ := findChunk_eq_some.mp hfind
    rcases hw.chunks.only hget with hold | ⟨new, hnew, time', rfl, -⟩
    · -- An old chunk has an old number.
      have hsource' : chunk.key = p.revision.key := hsource.trans hkey.symm
      rw [hlatest, if_pos hsource'] at hrevision
      obtain rfl := Option.some.inj hrevision
      obtain ⟨old, hrow, -⟩ := hc.parts hold
      have hle : chunk.source_revision ≤ store.heldNumber chunk.key := le_heldNumber (by
        show (store.documents.get? chunk.revisionKey).isSome = true
        rw [hrow]
        rfl)
      rw [hsource'] at hle
      have hlast : p.revision.source_revision = chunk.source_revision := hnumber
      omega
    · exact List.mem_map_of_mem hnew
  · intro chunk_id hmem
    obtain ⟨chunk, hchunk, rfl⟩ := List.mem_map.mp hmem
    obtain ⟨time', hadded⟩ := hw.chunks.added chunk hchunk
    have hsource : chunk.key = p.key := Publication.key_of_mem hchunk
    have hpart := p.parts chunk hchunk
    obtain ⟨hacl, hprovenance⟩ := PartOf_publication hchunk
    refine ⟨chunk.at time', findChunk_eq_some.mpr ⟨hadded, p.revision.at time, ?_, ?_,
      p.describes.tombstoned⟩, hsource, hacl, hprovenance⟩
    · rw [hlatest]
      exact if_pos (hsource.trans hkey.symm)
    · exact hpart.source_revision.symm

/-- The chunks of a live revision say what its row says. -/
theorem chunk_of_live {store : PostgresKnowledgeStore} (hc : store.Consistent) {key : SourceKey}
    {revision : DocumentRevision} (hrevision : store.getRevision key = some revision)
    (hlive : revision.tombstoned = false) :
    ∃ chunk_id chunk, store.findChunk chunk_id = some chunk ∧ chunk.key = key ∧
      chunk.acl_principals = revision.acl_principals ∧ chunk.provenance = revision.provenance := by
  obtain ⟨hrow, -⟩ := getRevision_eq_some.mp hrevision
  obtain ⟨chunk_id, chunk, hget, hkey⟩ := hc.filled hrow hlive
  have hsource : chunk.key = key := congrArg RevisionKey.source hkey
  have hnumber : chunk.source_revision = revision.source_revision :=
    congrArg RevisionKey.source_revision hkey
  obtain ⟨row, hrow', -, hpart⟩ := hc.parts hget
  rw [hkey, hrow] at hrow'
  obtain rfl := Option.some.inj hrow'
  refine ⟨chunk_id, chunk, findChunk_eq_some.mpr ⟨hget, revision, ?_, hnumber.symm, hlive⟩,
    hsource, hpart.acl_principals, hpart.provenance⟩
  rw [hsource]
  exact hrevision

/-- After any history, an ingest that reports a publication leaves its chunks
    exactly when the source did not hold the text. -/
theorem holds_of_ingest_iff {ts : List (IngestTransition PostgresKnowledgeStore)}
    {st : IngestState PostgresKnowledgeStore} (hrun : IngestRun publisher empty ts st)
    {pipeline : IngestionPipeline} {document : SourceDocument} {created_at : JsonFloat}
    {store' : PostgresKnowledgeStore} {result : IngestionResult}
    (h : pipeline.ingest publisher st.store document created_at = .ok (store', result))
    (hpublished : result.idempotent = false) :
    Holds store'.findChunk document result.chunk_ids ↔
      st.store.holdsContent document.key document.content_digest = false := by
  have hs := sound_of_run hrun
  rcases ingest_ok h with ⟨-, hsame⟩ | ⟨p, n, hbegin, hpublish, rfl⟩
  · rw [hsame] at hpublished
    cases hpublished
  · have hreads := readsHeld_of_begin hbegin
    obtain ⟨hread, rfl, hchanged⟩ := begin_pending hbegin
    have hdigest : p.publication.revision.content_digest = p.publication.document.content_digest :=
      p.publication.describes.content_digest
    obtain ⟨collections, heq, -⟩ := st.store.withCollection_eq p.publication.key.collection
      p.publication.profile
    rcases publishRevision_ok hpublish with ⟨hheld, rfl⟩ | ⟨hnew, hw⟩
    · rw [hdigest] at hheld
      constructor
      · intro hholds
        exfalso
        -- The rows of the held revision are still the live ones.
        unfold holdsContent at hheld
        cases hrevision : st.store.getRevision p.publication.key with
        | none =>
          rw [hrevision] at hheld
          cases hheld
        | some revision =>
          rw [hrevision] at hheld
          simp only [Bool.and_eq_true, Bool.not_eq_true', decide_eq_true_eq] at hheld
          obtain ⟨hlive, hsameDigest⟩ := hheld
          obtain ⟨chunk_id, chunk, hfind, hkey, hacl, hprovenance⟩ :=
            chunk_of_live hs.consistent hrevision hlive
          rw [← heq] at hholds
          obtain ⟨chunk', hfind', -, hacl', hprovenance'⟩ :=
            hholds.loadable chunk_id (hholds.only hfind hkey)
          obtain rfl := Option.some.inj (hfind.symm.trans hfind')
          have hexisting : p.existing = some revision := by
            rw [← hrevision]
            exact (Except.ok.inj hread).symm
          have hdifferent := hchanged revision hexisting
          unfold SourceDocument.unchanged at hdifferent
          rw [hlive, hsameDigest, ← hacl, ← hprovenance, hacl', hprovenance'] at hdifferent
          simp at hdifferent
      · intro hnot
        have hkey : p.publication.document.key = p.publication.key := rfl
        rw [hkey, hheld] at hnot
        cases hnot
    · rw [hdigest] at hnew
      constructor
      · intro _
        exact hnew
      · intro _
        rw [← heq] at hw
        have hc : { st.store with collections := collections }.Consistent :=
          hs.consistent.congr rfl rfl
        exact holds_of_wrote hc hw (next_of_wrote hc ⟨hreads.number, hreads.row⟩ hw)

end PostgresKnowledgeStore

/-! ## Section 3: Both stores -/

/-- After any history of a store, an ingest that reports a publication leaves as
    live chunks of its source the ones it returns, with the document's access
    list and provenance: always in memory, and in PostgreSQL exactly when the
    source held no live revision with the same text. -/
theorem ingest_leaves_chunks {pipeline : IngestionPipeline} {document : SourceDocument}
    {created_at : JsonFloat} {result : IngestionResult} (hnew : result.idempotent = false) :
    (∀ {ts st store'},
      IngestRun InMemoryKnowledgeStore.publisher InMemoryKnowledgeStore.empty ts st →
      pipeline.ingest InMemoryKnowledgeStore.publisher st.store document created_at =
        .ok (store', result) →
      Holds store'.findChunk document result.chunk_ids) ∧
    ∀ {ts st store'},
      IngestRun PostgresKnowledgeStore.publisher PostgresKnowledgeStore.empty ts st →
      pipeline.ingest PostgresKnowledgeStore.publisher st.store document created_at =
        .ok (store', result) →
      (Holds store'.findChunk document result.chunk_ids ↔
        st.store.holdsContent document.key document.content_digest = false) := by
  constructor
  · intro ts st store' hrun h
    exact InMemoryKnowledgeStore.holds_of_ingest hrun h hnew
  · intro ts st store' hrun h
    exact PostgresKnowledgeStore.holds_of_ingest_iff hrun h hnew

open PostgresKnowledgeStore in
theorem ingest_leaves_chunks_inner :
    ∃ store result,
      widePipeline.ingest publisher empty innerDocument (.finite (whole 1)) = .ok (store, result) ∧
      Holds store.findChunk innerDocument result.chunk_ids := by
  obtain ⟨⟨store, result⟩, h, hnew⟩ := map_ok.mp inner_ingested
  exact ⟨store, result, h, ((ingest_leaves_chunks hnew).2 .nil h).mpr rfl⟩

/-- The FAQ, for Bob too. -/
def sharedDocument : SourceDocument := { faqDocument with acl_principals := {alice, bob} }

open PostgresKnowledgeStore in
/-- The FAQ for both, and then the same text for Alice alone. -/
def revokeRun : Raises ((PostgresKnowledgeStore × IngestionResult) ×
    (PostgresKnowledgeStore × IngestionResult)) := do
  let shared ← widePipeline.ingest publisher empty sharedDocument (.finite (whole 1))
  let revoked ← widePipeline.ingest publisher shared.1 faqDocument (.finite (whole 2))
  pure (shared, revoked)

open PostgresKnowledgeStore in
/-- What Bob still finds after the second ingest, which reports a publication. -/
theorem revokeRun_eq : revokeRun.map (fun r =>
    (r.1.1.holdsContent faqDocument.key faqDocument.content_digest, r.2.2.idempotent,
      r.2.2.published,
      (r.2.1.listLiveChunks faqDocument.key.collection bob).map KnowledgeChunk.text)) =
    .ok (true, false, true, ["pager rota"]) := by
  decide +kernel

open PostgresKnowledgeStore in
/-- The text is the same, so the rows stay, and Bob keeps his access. -/
theorem revoked_access_stays :
    ∃ ts store store' result, IngestRun publisher empty ts ⟨store, []⟩ ∧
      widePipeline.ingest publisher store faqDocument (.finite (whole 2)) = .ok (store', result) ∧
      result.published = true ∧ result.idempotent = false ∧
      bob ∉ faqDocument.acl_principals ∧ wildcard ∉ faqDocument.acl_principals ∧
      (store'.listLiveChunks faqDocument.key.collection bob).map KnowledgeChunk.text =
        ["pager rota"] ∧
      ¬ Holds store'.findChunk faqDocument result.chunk_ids := by
  obtain ⟨⟨⟨store, result₁⟩, ⟨store', result⟩⟩, hrun, hfields⟩ := map_ok.mp revokeRun_eq
  simp only [Prod.mk.injEq] at hfields
  obtain ⟨hheld, hnew, hpublished, hbob⟩ := hfields
  unfold revokeRun at hrun
  rw [bind_ok] at hrun
  obtain ⟨first, hfirst, hrun⟩ := hrun
  rw [bind_ok] at hrun
  obtain ⟨second, hsecond, hrun⟩ := hrun
  obtain ⟨rfl, rfl⟩ := Prod.mk.inj (pure_ok.mp hrun)
  obtain ⟨ts, hhistory⟩ := IngestRun.nil.ingest hfirst
  refine ⟨ts, store, store', result, hhistory, hsecond, hpublished, hnew, by decide, by decide,
    hbob, ?_⟩
  intro hholds
  have hnot := (holds_of_ingest_iff hhistory hsecond hnew).mp hholds
  rw [hheld] at hnot
  cases hnot

end CBrain.Knowledge
