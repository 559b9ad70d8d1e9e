import CBrain.Knowledge.Noninterference
import Mathlib.Data.Finset.Max

/-! # Ingesting a document again

    `IngestionPipeline.ingest` (`cbrain/knowledge/ingestion.py`) answers a
    document that its source already holds without publishing.  It does not
    keep the first receipt: it takes the revision that is held, and reads the
    chunk ids back with a query for one of the document's principals, which
    lists them in the order of the ids.

    So the second receipt is the first one when somebody may read the
    document, the ids were in order, and the store still has their chunks. -/

namespace CBrain.Knowledge

open InMemoryKnowledgeStore

/-! ## Section 1: The publication that a source holds -/

/-- The last accepted change of its source was this publication. -/
def LatestPublication (ts : List (IngestTransition InMemoryKnowledgeStore)) (p : PendingIngest) :
    Prop :=
  ∃ before t after, ts = before ++ t :: after ∧ t.event = .finish p ∧
    ∀ u ∈ after, u.event.source ≠ some p.publication.key

namespace InMemoryKnowledgeStore

/-- The source of a publication holds its revision, and lists its chunks. -/
structure HeldBy (p : Publication) (store : InMemoryKnowledgeStore) : Prop where
  revision : store.revisions.get? p.key = some p.revision
  listed : store.live_chunks.get? p.key = some p.chunk_ids

theorem heldBy_written (store : InMemoryKnowledgeStore) (p : Publication) :
    HeldBy p (store.written p) where
  revision := Table.get?_set_self _ _ _
  listed := Table.get?_set_self _ _ _

/-- A change of another source leaves it. -/
theorem HeldBy.step {p : Publication} {st st' : IngestState InMemoryKnowledgeStore}
    {event : IngestEvent} (hheld : HeldBy p st.store) (h : IngestStep publisher st event st')
    (hother : event.source ≠ some p.key) : HeldBy p st'.store := by
  cases h with
  | begin hbegin => exact hheld
  | @finish q before after store' result hpending hfinish =>
    have hkey : p.key ≠ q.publication.key := fun heq => hother (congrArg some heq.symm)
    rw [finish_ok hfinish]
    constructor
    · exact (Table.get?_set_ne _ _ hkey).trans hheld.revision
    · exact (Table.get?_set_ne _ _ hkey).trans hheld.listed
  | abandon hpending => exact hheld
  | @tombstone key created_at store' result htombstone =>
    have hkey : p.key ≠ key := fun heq => hother (congrArg some heq.symm)
    obtain ⟨n, hstore⟩ := tombstone_of_source htombstone
    obtain ⟨current, time, -, hrevisions, -, -, hlive, -⟩ := tombstone_ok hstore
    constructor
    · rw [hrevisions, Table.get?_set_ne _ _ hkey]
      exact hheld.revision
    · rw [hlive]
      exact hheld.listed
  | upsertNodes hupsert =>
    obtain rfl := Except.ok.inj hupsert
    exact ⟨hheld.revision, hheld.listed⟩
  | upsertEdges hupsert =>
    obtain rfl := Except.ok.inj hupsert
    exact ⟨hheld.revision, hheld.listed⟩

/-- What the last accepted change published is held to the end of the run. -/
theorem heldBy_of_latest {ts : List (IngestTransition InMemoryKnowledgeStore)}
    {st : IngestState InMemoryKnowledgeStore} (hrun : IngestRun publisher empty ts st)
    {p : PendingIngest} (hlast : LatestPublication ts p) : HeldBy p.publication st.store := by
  obtain ⟨before, t, after, rfl, hevent, hafter⟩ := hlast
  induction after using List.reverseRecOn generalizing st with
  | nil =>
    obtain ⟨-, hstep, rfl⟩ := hrun.of_append
    obtain ⟨st, event, st'⟩ := t
    obtain rfl : event = .finish p := hevent
    cases hstep with
    | finish hpending hfinish =>
      show HeldBy p.publication _
      rw [finish_ok hfinish]
      exact heldBy_written _ _
  | append_singleton after u ih =>
    rw [← List.cons_append, ← List.append_assoc] at hrun
    obtain ⟨hbefore, hstep, rfl⟩ := hrun.of_append
    have hheld := ih hbefore fun v hv => hafter v (List.mem_append_left _ hv)
    exact hheld.step hstep (hafter u (List.mem_append_right _ List.mem_cons_self))

/-! ## Section 2: Reading the ids back -/

/-- The ids that the replay reports for a source. -/
def replayedIds (store : InMemoryKnowledgeStore) (key : SourceKey) (principal_id : RequiredText) :
    List String :=
  ((store.listLiveChunks key.collection principal_id).filter fun chunk =>
    chunk.source_id = key.source_id).map KnowledgeChunk.chunk_id

/-- They come in the order of the ids, each once. -/
theorem replayedIds_pairwise (store : InMemoryKnowledgeStore) (key : SourceKey)
    (principal_id : RequiredText) : (store.replayedIds key principal_id).Pairwise (· < ·) := by
  have hnodup : (store.listLiveChunks key.collection principal_id).Nodup :=
    (List.sortBy_perm _ _).nodup_iff.mpr ((Registry.nodup_values store.chunks).filter _)
  have hordered := List.sortBy_pairwise KnowledgeChunk.chunk_id
    (store.chunks.values.filter fun chunk => chunk.key.collection = key.collection &&
      authorized chunk principal_id && !store.isTombstoned chunk)
  have hstrict : (store.listLiveChunks key.collection principal_id).Pairwise
      fun a b => a.chunk_id < b.chunk_id := by
    refine (hordered.and hnodup).imp_of_mem ?_
    rintro a b ha hb ⟨hle, hne⟩
    -- Two chunks of the store with one id are the same.
    refine lt_of_le_of_ne hle fun hid => hne ?_
    have hvalues : ∀ {c}, c ∈ store.listLiveChunks key.collection principal_id →
        c ∈ store.chunks.values := fun hc => (List.mem_filter.mp (List.mem_sortBy.mp hc)).1
    exact Registry.eq_of_key (hvalues ha) (hvalues hb) hid
  unfold replayedIds
  rw [List.pairwise_map]
  exact hstrict.filter _

/-- A principal who may read the source is told the ids of its chunks. -/
theorem mem_replayedIds {store : InMemoryKnowledgeStore} {key : SourceKey}
    {principal_id : RequiredText} {revision : DocumentRevision} (hc : store.Consistent)
    (hrevision : store.revisions.get? key = some revision) (hlive : revision.tombstoned = false)
    (hread : principal_id ∈ revision.acl_principals) {chunk_id : String} :
    chunk_id ∈ store.replayedIds key principal_id ↔
      ∃ chunk, store.chunks.get? chunk_id = some chunk ∧ chunk.key = key := by
  unfold replayedIds
  rw [List.mem_map]
  constructor
  · rintro ⟨chunk, hchunk, rfl⟩
    obtain ⟨hmem, hsource⟩ := List.mem_filter.mp hchunk
    obtain ⟨hget, -, hcollection, -⟩ := readableChunk_eq_some.mp (mem_listLiveChunks.mp hmem)
    refine ⟨chunk, hget, ?_⟩
    obtain ⟨htenant, hcollection'⟩ := CollectionKey.mk.inj hcollection
    show (⟨chunk.tenant_id, chunk.collection_id, chunk.source_id⟩ : SourceKey) = key
    rw [show chunk.tenant_id = key.tenant_id from htenant,
      show chunk.collection_id = key.collection_id from hcollection', of_decide_eq_true hsource]
  · rintro ⟨chunk, hget, rfl⟩
    have hid : chunk.chunk_id = chunk_id := Registry.key_of_get? hget
    have hacl := (hc.current hget hrevision hlive).acl_principals
    refine ⟨chunk, List.mem_filter.mpr ⟨mem_listLiveChunks.mpr ?_, decide_eq_true rfl⟩, hid⟩
    refine readableChunk_eq_some.mpr ⟨by rw [hid]; exact hget, ?_, rfl, ?_⟩
    · unfold isTombstoned
      rw [hrevision]
      exact hlive
    · unfold authorized
      rw [hacl, decide_eq_true hread]
      rfl

/-- **The ids come back** as they were published exactly when they were in
    order and the store still has a chunk of the source under each. -/
theorem replayedIds_eq_iff {store : InMemoryKnowledgeStore} (hc : store.Consistent)
    {p : Publication} (hheld : HeldBy p store) {principal_id : RequiredText}
    (hread : principal_id ∈ p.document.acl_principals) :
    store.replayedIds p.key principal_id = p.chunk_ids ↔
      p.chunk_ids.Pairwise (· < ·) ∧
        ∀ chunk_id ∈ p.chunk_ids, ∃ chunk, store.chunks.get? chunk_id = some chunk ∧
          chunk.key = p.key := by
  have hread' : principal_id ∈ p.revision.acl_principals := by
    rw [p.describes.acl_principals]
    exact hread
  have hmem : ∀ {chunk_id}, chunk_id ∈ store.replayedIds p.key principal_id ↔ _ :=
    fun {_} => mem_replayedIds hc hheld.revision p.describes.tombstoned hread'
  constructor
  · intro heq
    rw [← heq]
    exact ⟨replayedIds_pairwise store p.key principal_id, fun chunk_id hid => hmem.mp hid⟩
  · rintro ⟨hordered, hthere⟩
    apply (replayedIds_pairwise store p.key principal_id).eq_of_mem_iff hordered
    intro chunk_id
    rw [hmem]
    constructor
    · rintro ⟨chunk, hget, hkey⟩
      -- Whatever the source has is listed under it.
      obtain ⟨ids, hids, hid⟩ := hc.listed hget
      rw [hkey, hheld.listed] at hids
      rw [Option.some.inj hids]
      exact hid
    · exact hthere chunk_id

end InMemoryKnowledgeStore

/-! ## Section 3: The second receipt -/

/-- The answer to a document that its source holds. -/
theorem ingest_of_held {pipeline : IngestionPipeline} {store : InMemoryKnowledgeStore}
    {p : Publication} (hheld : HeldBy p store)
    (hsize : p.document.text.utf8ByteSize ≤ pipeline.config.max_document_bytes)
    (created_at : JsonFloat) :
    pipeline.ingest publisher store p.document created_at =
      if p.document.acl_principals = ∅ then .error ⟨.other, "StopIteration", []⟩
      else .ok (store,
        { tenant_id := p.document.tenant_id
          collection_id := p.document.collection_id
          source_id := p.document.source_id
          source_revision := p.revision.source_revision
          collection_revision := store.collectionRevision p.key.collection
          chunk_ids := store.replayedIds p.key (pipeline.first p.document.acl_principals)
          content_digest := p.document.content_digest
          idempotent := true
          published := true }) := by
  have hdescribes := p.describes
  have hunchanged : p.document.unchanged p.revision = true := by
    unfold SourceDocument.unchanged
    rw [hdescribes.tombstoned, hdescribes.content_digest, hdescribes.acl_principals,
      hdescribes.provenance]
    simp
  have hread : publisher.get_revision store p.document.key = .ok (some p.revision) :=
    congrArg Except.ok hheld.revision
  unfold IngestionPipeline.ingest IngestionPipeline.begin
  rw [require_bind_pos hsize, hread, ok_bind]
  simp only [if_pos hunchanged]
  have hcount : publisher.collection_revision store p.document.key.collection =
      .ok (store.collectionRevision p.key.collection) := rfl
  unfold IngestionPipeline.unchangedResult
  rw [hcount, ok_bind]
  by_cases hacl : p.document.acl_principals = ∅
  · have hnobody : ¬ p.document.acl_principals ≠ ∅ := not_not.mpr hacl
    rw [if_pos hacl, require_bind_neg hnobody]
    rfl
  · have hsomebody : p.document.acl_principals ≠ ∅ := hacl
    rw [if_neg hacl, require_bind_pos hsomebody]
    rfl

/-- **The second receipt** repeats the first, with the current revision of the
    collection, and the store stays as it is, if and only if the document lists
    a principal, its chunk ids were published in their own order, and the store
    still has a chunk of the source under each of them. -/
theorem reingest_repeats_iff {ts : List (IngestTransition InMemoryKnowledgeStore)}
    {st : IngestState InMemoryKnowledgeStore} (hrun : IngestRun publisher empty ts st)
    {p : PendingIngest} (hlast : LatestPublication ts p) {pipeline : IngestionPipeline}
    (hfirst : ∀ s : Finset RequiredText, s ≠ ∅ → pipeline.first s ∈ s)
    (hsize : p.publication.document.text.utf8ByteSize ≤ pipeline.config.max_document_bytes)
    (created_at : JsonFloat) :
    pipeline.ingest publisher st.store p.publication.document created_at =
        .ok (st.store,
          { p.result (st.store.collectionRevision p.publication.key.collection) with
            idempotent := true }) ↔
      p.publication.document.acl_principals ≠ ∅ ∧ p.publication.chunk_ids.Pairwise (· < ·) ∧
        ∀ chunk_id ∈ p.publication.chunk_ids, ∃ chunk,
          st.store.chunks.get? chunk_id = some chunk ∧ chunk.key = p.publication.key := by
  have hheld := heldBy_of_latest hrun hlast
  rw [ingest_of_held hheld hsize created_at]
  by_cases hacl : p.publication.document.acl_principals = ∅
  · rw [if_pos hacl]
    constructor
    · intro h
      cases h
    · rintro ⟨hne, _⟩
      exact absurd hacl hne
  · rw [if_neg hacl, ← replayedIds_eq_iff (consistent_of_run hrun) hheld (hfirst _ hacl)]
    constructor
    · intro h
      refine ⟨hacl, ?_⟩
      exact congrArg (fun answer => answer.2.chunk_ids) (Except.ok.inj h)
    · rintro ⟨_, hids⟩
      rw [hids, p.numbered]
      rfl

/-! ## Section 4: One chunk and two -/

/-- An ingest that publishes is the last change of its source. -/
theorem latest_of_ingest {ts : List (IngestTransition InMemoryKnowledgeStore)}
    {store store' : InMemoryKnowledgeStore} (hrun : IngestRun publisher empty ts ⟨store, []⟩)
    {pipeline : IngestionPipeline} {document : SourceDocument} {created_at : JsonFloat}
    {result : IngestionResult}
    (h : pipeline.ingest publisher store document created_at = .ok (store', result))
    (hnew : result.idempotent = false) :
    ∃ ts' p n, IngestRun publisher empty ts' ⟨store', []⟩ ∧ LatestPublication ts' p ∧
      p.publication.document = document ∧ result = p.result n := by
  rcases ingest_ok h with ⟨-, hsame⟩ | ⟨p, n, hbegin, hpublish, rfl⟩
  · rw [hsame] at hnew
    cases hnew
  · have hfinish : p.finish publisher store = .ok (store', p.result n) := by
      unfold PendingIngest.finish
      rw [hpublish]
      rfl
    have hfirst := hrun.step (IngestStep.begin hbegin)
    have hboth := hfirst.step (@IngestStep.finish _ _ _ p [] [] _ _ rfl hfinish)
    exact ⟨_, p, n, hboth, ⟨_, _, [], rfl, rfl, fun u hu => by cases hu⟩, (begin_pending hbegin).2.1, rfl⟩

/-- Chunks of a few characters, without a graph.  The first of some principals
    is the least. -/
def smallPipeline (chunk_size : Nat) (h : 0 < chunk_size) : IngestionPipeline where
  config := { opsConfig with chunk_size := chunk_size, chunk_overlap := 0, chunk_overlap_lt := h }
  embed texts _ := .ok (texts.map letterVector)
  extract _ := .ok ([], [])
  first s := if h : s.Nonempty then s.min' h else wildcard

theorem smallPipeline_first {chunk_size : Nat} {h : 0 < chunk_size} (s : Finset RequiredText)
    (hs : s ≠ ∅) : (smallPipeline chunk_size h).first s ∈ s := by
  have hnonempty : s.Nonempty := Finset.nonempty_iff_ne_empty.mpr hs
  show (if h : s.Nonempty then s.min' h else wildcard) ∈ s
  rw [dif_pos hnonempty]
  exact s.min'_mem hnonempty

/-- The FAQ, in one chunk, ingested on an empty store. -/
theorem small_ingested :
    ((smallPipeline 160 (by decide)).ingest publisher empty faqDocument (.finite (whole 1))).map
      (fun answer => (answer.2.idempotent, answer.2.collection_revision,
        answer.1.collectionRevision faqDocument.key.collection,
        answer.2.chunk_ids.map fun chunk_id =>
          (answer.1.chunks.get? chunk_id).map KnowledgeChunk.key)) =
      .ok (false, 1, 1, [some faqDocument.key]) := by
  decide +kernel

/-- Ingested once more, it is answered with the same receipt. -/
theorem reingest_repeats_small :
    ∃ store receipt,
      (smallPipeline 160 (by decide)).ingest publisher empty faqDocument (.finite (whole 1)) =
        .ok (store, receipt) ∧
      (smallPipeline 160 (by decide)).ingest publisher store faqDocument (.finite (whole 2)) =
        .ok (store, { receipt with idempotent := true }) := by
  obtain ⟨⟨store, receipt⟩, hingest, hfields⟩ := map_ok.mp small_ingested
  simp only [Prod.mk.injEq] at hfields
  obtain ⟨hnew, hrevision, hcount, hids⟩ := hfields
  obtain ⟨ts, p, n, hrun, hlast, hdocument, rfl⟩ := latest_of_ingest .nil hingest hnew
  obtain rfl : n = 1 := hrevision
  refine ⟨store, p.result 1, hingest, ?_⟩
  have hsize : p.publication.document.text.utf8ByteSize ≤
      (smallPipeline 160 (by decide)).config.max_document_bytes := by
    rw [hdocument]
    decide
  have hiff := reingest_repeats_iff hrun hlast smallPipeline_first hsize (.finite (whole 2))
  have hkey : p.publication.key = faqDocument.key := congrArg SourceDocument.key hdocument
  rw [hdocument, hkey, hcount] at hiff
  -- The one chunk of the receipt is in the store.
  obtain ⟨chunk_id, hlist, hchunk⟩ := List.map_eq_singleton_iff.mp hids
  obtain ⟨chunk, hget, hsource⟩ := Option.map_eq_some_iff.mp hchunk
  have hids' : p.publication.chunk_ids = [chunk_id] := hlist
  apply hiff.mpr
  refine ⟨by decide, ?_, ?_⟩
  · rw [hids']
    exact List.pairwise_singleton _ _
  · intro other hother
    rw [hids'] at hother
    obtain rfl := List.mem_singleton.mp hother
    exact ⟨chunk, hget, hsource⟩

/-- The FAQ in two chunks, ingested twice. -/
def twoChunkRun : Raises ((InMemoryKnowledgeStore × IngestionResult) ×
    (InMemoryKnowledgeStore × IngestionResult)) := do
  let first ← (smallPipeline 5 (by decide)).ingest publisher empty faqDocument (.finite (whole 1))
  let second ← (smallPipeline 5 (by decide)).ingest publisher first.1 faqDocument
    (.finite (whole 2))
  pure (first, second)

theorem twoChunkRun_eq : twoChunkRun.map (fun r =>
    (decide (r.2.1 = r.1.1), r.1.2.chunk_ids.length, r.2.2.idempotent,
      decide (r.2.2.chunk_ids = r.1.2.chunk_ids.reverse),
      decide (r.2.2.chunk_ids = r.1.2.chunk_ids))) = .ok (true, 2, true, true, false) := by
  decide +kernel

/-- The second receipt has the chunk ids the other way round. -/
theorem reingest_reverses_ids :
    ∃ ts store receipt again, IngestRun publisher empty ts ⟨store, []⟩ ∧
      (smallPipeline 5 (by decide)).ingest publisher empty faqDocument (.finite (whole 1)) =
        .ok (store, receipt) ∧
      (smallPipeline 5 (by decide)).ingest publisher store faqDocument (.finite (whole 2)) =
        .ok (store, again) ∧
      again.idempotent = true ∧ again.chunk_ids = receipt.chunk_ids.reverse ∧
      again.chunk_ids ≠ receipt.chunk_ids := by
  obtain ⟨⟨⟨store, receipt⟩, ⟨store', again⟩⟩, hrun, hfields⟩ := map_ok.mp twoChunkRun_eq
  simp only [Prod.mk.injEq, decide_eq_true_eq, decide_eq_false_iff_not] at hfields
  obtain ⟨rfl, -, hagain, hreversed, hdifferent⟩ := hfields
  unfold twoChunkRun at hrun
  rw [bind_ok] at hrun
  obtain ⟨first, hfirst, hrun⟩ := hrun
  rw [bind_ok] at hrun
  obtain ⟨second, hsecond, hrun⟩ := hrun
  obtain ⟨rfl, rfl⟩ := Prod.mk.inj (pure_ok.mp hrun)
  obtain ⟨ts, hhistory⟩ := IngestRun.nil.ingest hfirst
  exact ⟨ts, _, receipt, again, hhistory, hfirst, hsecond, hagain, hreversed, hdifferent⟩

end CBrain.Knowledge
