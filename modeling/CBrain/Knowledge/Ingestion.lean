import CBrain.Knowledge.Ports

/-! # Ingestion

    Models `IngestionPipeline` (`cbrain/knowledge/ingestion.py`) over the ports
    of a store, and the histories of a store that any number of workers write.

    An ingest reads the source, prepares a publication from what it read, and
    publishes it; other steps may come between the read and the publication.
    `begin` is the part up to the publication and `finish` the publication;
    `ingest` is the two without a step between. -/

namespace CBrain.Knowledge

/-! ## Section 1: The pipeline -/

/-- `IngestionPipeline`, without the store and the clock. -/
structure IngestionPipeline where
  config : KnowledgeConfig
  /-- `embeddings.embed`. -/
  embed : List String → EmbeddingProfile → Raises (List (List Decimal))
  /-- `extractor.extract`. -/
  extract : KnowledgeChunk → Raises (List GraphNode × List GraphEdge)
  /-- `next(iter(s))` of a set that is not empty. -/
  first : Finset RequiredText → RequiredText

/-- The number after the revision that was read. -/
def nextNumber : Option DocumentRevision → Nat
  | none => 1
  | some existing => existing.source_revision + 1

theorem nextNumber_pos (existing : Option DocumentRevision) : 0 < nextNumber existing := by
  cases existing with
  | none => exact Nat.one_pos
  | some existing => exact Nat.succ_pos _

/-- An ingest that has read its source and has still to publish. -/
structure PendingIngest where
  existing : Option DocumentRevision
  publication : Publication
  numbered : publication.revision.source_revision = nextNumber existing

/-- The document is what the source already holds. -/
def SourceDocument.unchanged (document : SourceDocument) (existing : DocumentRevision) : Bool :=
  !existing.tombstoned && existing.content_digest = document.content_digest &&
    existing.acl_principals = document.acl_principals &&
    existing.provenance = document.provenance

/-- How the first part of an ingest ends. -/
inductive Begun where
  | unchanged (result : IngestionResult)
  | pending (p : PendingIngest)

namespace IngestionPipeline

variable (pipeline : IngestionPipeline) {S : Type} (ports : KnowledgePublisher S)

/-- `_require_profile`. -/
def requireProfile (published : Option EmbeddingProfile) : Raises EmbeddingProfile :=
  let requested := pipeline.config.embedding_profile
  match published with
  | none => .ok requested
  | some published =>
    if published ≠ requested then
      .error (knowledgeError "embedding profile is immutable after first revision")
    else .ok published

/-- Vectors under the ids of some chunks. -/
abbrev Embeddings (chunks : List KnowledgeChunk) : Type :=
  { embeddings : Table String (List Decimal) // ∀ chunk_id,
    (embeddings.get? chunk_id).isSome = true → chunk_id ∈ chunks.map KnowledgeChunk.chunk_id }

/-- `dict(zip(chunk_ids, vectors))`. -/
def zipEmbeddings (chunks : List KnowledgeChunk) (vectors : List (List Decimal)) :
    Embeddings chunks :=
  ⟨Table.empty.setAll Prod.fst Prod.snd ((chunks.map KnowledgeChunk.chunk_id).zip vectors), by
    intro chunk_id h
    obtain ⟨vector, hget⟩ := Option.isSome_iff_exists.mp h
    rcases Table.get?_setAll_cases hget with ⟨row, hrow, hkey, -⟩ | ⟨-, hempty⟩
    · rw [← hkey]
      exact (List.of_mem_zip hrow).1
    · cases hempty⟩

/-- The vectors of the chunks under the chunks' ids. -/
def embedChunks (chunks : List KnowledgeChunk) (profile : EmbeddingProfile) :
    Raises (Embeddings chunks) := do
  let vectors ← pipeline.embed (chunks.map KnowledgeChunk.text) profile
  require (∀ vector ∈ vectors, vector.length = profile.dimension)
    (knowledgeError "embedding dimension mismatch")
  -- `zip(chunks, vectors, strict=True)`
  require (vectors.length = chunks.length)
    (Exn.of .valueError "zip() arguments have different lengths")
  pure (zipEmbeddings chunks vectors)

/-- The nodes and edges of all chunks. -/
def extractAll : List KnowledgeChunk → Raises (List GraphNode × List GraphEdge)
  | [] => .ok ([], [])
  | chunk :: chunks => do
    let (extracted_nodes, extracted_edges) ← pipeline.extract chunk
    let (nodes, edges) ← extractAll chunks
    pure (extracted_nodes ++ nodes, extracted_edges ++ edges)

/-- A publication of the document after what was read. -/
def prepare (document : SourceDocument) (existing : Option DocumentRevision)
    (profile : EmbeddingProfile) (created_at : JsonFloat) : Raises PendingIngest := do
  let created_at ← finiteTimestamp created_at "created_at"
  let number := nextNumber existing
  match hchunks : buildChunks pipeline.config document number (nextNumber_pos existing)
      created_at with
  | .error e => .error e
  | .ok chunks => do
    let embeddings ← pipeline.embedChunks chunks profile
    let (nodes, edges) ← pipeline.extractAll chunks
    let revision := document.revision number (nextNumber_pos existing) created_at
    pure
      { existing := existing
        publication :=
          { document := document
            revision := revision
            chunks := chunks
            embeddings := embeddings.val
            nodes := nodes
            edges := edges
            profile := profile
            describes := ⟨rfl, rfl, rfl, rfl, rfl, rfl, rfl⟩
            parts := (buildChunks_ok hchunks).2
            chunks_ne := (buildChunks_ok hchunks).1
            embedded := embeddings.property }
        numbered := rfl }

/-- The result for a document that the source already holds. -/
def unchangedResult (store : S) (document : SourceDocument) (existing : DocumentRevision) :
    Raises IngestionResult := do
  let collection_revision ← ports.collection_revision store document.key.collection
  -- `next(iter(document.acl_principals))`
  require (document.acl_principals ≠ ∅) ⟨.other, "StopIteration", []⟩
  let live ← ports.list_live_chunks store document.key.collection
    (pipeline.first document.acl_principals)
  pure
    { tenant_id := document.tenant_id
      collection_id := document.collection_id
      source_id := document.source_id
      source_revision := existing.source_revision
      collection_revision := collection_revision
      chunk_ids := (live.filter fun chunk => chunk.source_id = document.source_id).map
        KnowledgeChunk.chunk_id
      content_digest := document.content_digest
      idempotent := true
      published := true }

/-- The publication of a document that the source does not hold. -/
def changed (store : S) (document : SourceDocument) (existing : Option DocumentRevision)
    (created_at : JsonFloat) : Raises Begun := do
  let published ← ports.embedding_profile store document.key.collection
  let profile ← pipeline.requireProfile published
  let p ← pipeline.prepare document existing profile created_at
  pure (.pending p)

/-- `ingest` up to the publication. -/
def begin (store : S) (document : SourceDocument) (created_at : JsonFloat) : Raises Begun := do
  require (document.text.utf8ByteSize ≤ pipeline.config.max_document_bytes)
    (knowledgeError "document exceeds max_document_bytes")
  let existing ← ports.get_revision store document.key
  match existing with
  | some revision =>
    if document.unchanged revision then do
      let result ← pipeline.unchangedResult ports store document revision
      pure (.unchanged result)
    else pipeline.changed ports store document existing created_at
  | none => pipeline.changed ports store document existing created_at

end IngestionPipeline

namespace PendingIngest

variable {S : Type} (ports : KnowledgePublisher S)

/-- The result once the publication is accepted. -/
def result (p : PendingIngest) (collection_revision : Nat) : IngestionResult where
  tenant_id := p.publication.document.tenant_id
  collection_id := p.publication.document.collection_id
  source_id := p.publication.document.source_id
  source_revision := nextNumber p.existing
  collection_revision := collection_revision
  chunk_ids := p.publication.chunk_ids
  content_digest := p.publication.document.content_digest
  idempotent := false
  published := true

/-- The rest of `ingest`. -/
def finish (store : S) (p : PendingIngest) : Raises (S × IngestionResult) := do
  let (store', collection_revision) ← ports.publish_revision store p.publication
  pure (store', p.result collection_revision)

end PendingIngest

namespace IngestionPipeline

variable (pipeline : IngestionPipeline) {S : Type} (ports : KnowledgePublisher S)

/-- `ingest`. -/
def ingest (store : S) (document : SourceDocument) (created_at : JsonFloat) :
    Raises (S × IngestionResult) := do
  let begun ← pipeline.begin ports store document created_at
  match begun with
  | .unchanged result => pure (store, result)
  | .pending p => p.finish ports store

end IngestionPipeline

/-- `IngestionPipeline.tombstone`. -/
def tombstoneSource {S : Type} (ports : KnowledgePublisher S) (store : S) (key : SourceKey)
    (created_at : JsonFloat) : Raises (S × IngestionResult) := do
  let current ← ports.get_revision store key
  match current with
  | none => .error (knowledgeError "source does not exist")
  | some current => do
    let (store', collection_revision) ← ports.tombstone store key created_at
    pure (store',
      { tenant_id := key.tenant_id
        collection_id := key.collection_id
        source_id := key.source_id
        source_revision := current.source_revision + 1
        collection_revision := collection_revision
        chunk_ids := []
        content_digest := current.content_digest
        idempotent := false
        published := true })

/-! ## Section 2: What an ingest publishes -/

section ingest
variable {S : Type} {ports : KnowledgePublisher S} {pipeline : IngestionPipeline}

theorem prepare_ok {document : SourceDocument} {existing : Option DocumentRevision}
    {profile : EmbeddingProfile} {created_at : JsonFloat} {p : PendingIngest}
    (h : pipeline.prepare document existing profile created_at = .ok p) :
    p.existing = existing ∧ p.publication.document = document ∧
      p.publication.profile = profile := by
  unfold IngestionPipeline.prepare at h
  rw [bind_ok] at h
  obtain ⟨time, -, h⟩ := h
  simp only at h
  split at h
  · cases h
  · rw [bind_ok] at h
    obtain ⟨embeddings, -, h⟩ := h
    rw [bind_ok] at h
    obtain ⟨graph, -, h⟩ := h
    obtain rfl := pure_ok.mp h
    exact ⟨rfl, rfl, rfl⟩

/-- What the publication of a changed document is made of. -/
theorem changed_ok {store : S} {document : SourceDocument} {existing : Option DocumentRevision}
    {created_at : JsonFloat} {begun : Begun}
    (h : pipeline.changed ports store document existing created_at = .ok begun) :
    ∃ p, begun = .pending p ∧ p.existing = existing ∧ p.publication.document = document := by
  unfold IngestionPipeline.changed at h
  rw [bind_ok] at h
  obtain ⟨published, -, h⟩ := h
  rw [bind_ok] at h
  obtain ⟨profile, -, h⟩ := h
  rw [bind_ok] at h
  obtain ⟨p, hp, h⟩ := h
  obtain ⟨hexisting, hdocument, -⟩ := prepare_ok hp
  exact ⟨p, (pure_ok.mp h).symm, hexisting, hdocument⟩

/-- How an ingest begins: the source is read, and the document is either what it
    holds or made into a publication. -/
theorem begin_ok {store : S} {document : SourceDocument} {created_at : JsonFloat} {begun : Begun}
    (h : pipeline.begin ports store document created_at = .ok begun) :
    ∃ existing, ports.get_revision store document.key = .ok existing ∧
      ((∃ revision result, existing = some revision ∧ document.unchanged revision = true ∧
          pipeline.unchangedResult ports store document revision = .ok result ∧
            begun = .unchanged result) ∨
        ((∀ revision ∈ existing, document.unchanged revision = false) ∧
          ∃ p, begun = .pending p ∧ p.existing = existing ∧
            p.publication.document = document)) := by
  unfold IngestionPipeline.begin at h
  rw [require_bind_ok] at h
  obtain ⟨-, h⟩ := h
  rw [bind_ok] at h
  obtain ⟨existing, hread, h⟩ := h
  refine ⟨existing, hread, ?_⟩
  cases existing with
  | none => exact Or.inr ⟨fun revision hrevision => (by cases hrevision), changed_ok h⟩
  | some revision =>
    by_cases hsame : document.unchanged revision = true
    · simp only [if_pos hsame] at h
      rw [bind_ok] at h
      obtain ⟨result, hresult, h⟩ := h
      exact Or.inl ⟨revision, result, rfl, hsame, hresult, (pure_ok.mp h).symm⟩
    · simp only [if_neg hsame] at h
      refine Or.inr ⟨?_, changed_ok h⟩
      intro other hother
      obtain rfl := Option.some.inj hother
      simpa using hsame

/-- What a pending ingest knows: the revision it read and its own document. -/
theorem begin_pending {store : S} {document : SourceDocument} {created_at : JsonFloat}
    {p : PendingIngest} (h : pipeline.begin ports store document created_at = .ok (.pending p)) :
    ports.get_revision store document.key = .ok p.existing ∧
      p.publication.document = document ∧
      ∀ existing ∈ p.existing, document.unchanged existing = false := by
  obtain ⟨existing, hread, hcase⟩ := begin_ok h
  rcases hcase with ⟨_, _, _, _, _, hbegun⟩ | ⟨hchanged, q, hbegun, hexisting, hdocument⟩
  · cases hbegun
  · obtain rfl := Begun.pending.inj hbegun
    rw [hexisting]
    exact ⟨hread, hdocument, hchanged⟩

theorem unchangedResult_idempotent {store : S} {document : SourceDocument}
    {existing : DocumentRevision} {result : IngestionResult}
    (h : pipeline.unchangedResult ports store document existing = .ok result) :
    result.idempotent = true := by
  unfold IngestionPipeline.unchangedResult at h
  rw [bind_ok] at h
  obtain ⟨collection_revision, -, h⟩ := h
  rw [require_bind_ok] at h
  obtain ⟨-, h⟩ := h
  rw [bind_ok] at h
  obtain ⟨live, -, h⟩ := h
  obtain rfl := pure_ok.mp h
  rfl

/-- An ingest leaves the store as it is, or publishes what it has prepared. -/
theorem ingest_ok {store store' : S} {document : SourceDocument} {created_at : JsonFloat}
    {result : IngestionResult}
    (h : pipeline.ingest ports store document created_at = .ok (store', result)) :
    (store' = store ∧ result.idempotent = true) ∨
      ∃ p collection_revision, pipeline.begin ports store document created_at = .ok (.pending p) ∧
        ports.publish_revision store p.publication = .ok (store', collection_revision) ∧
        result = p.result collection_revision := by
  unfold IngestionPipeline.ingest at h
  rw [bind_ok] at h
  obtain ⟨begun, hbegin, h⟩ := h
  obtain ⟨existing, -, hcase⟩ := begin_ok hbegin
  rcases hcase with ⟨revision, old, -, -, hold, rfl⟩ | ⟨-, p, rfl, -, -⟩
  · obtain ⟨rfl, rfl⟩ := Prod.mk.inj (pure_ok.mp h)
    exact Or.inl ⟨rfl, unchangedResult_idempotent hold⟩
  · simp only at h
    unfold PendingIngest.finish at h
    rw [bind_ok] at h
    obtain ⟨⟨store₁, collection_revision⟩, hpublish, h⟩ := h
    obtain ⟨rfl, rfl⟩ := Prod.mk.inj (pure_ok.mp h)
    exact Or.inr ⟨p, collection_revision, hbegin, hpublish, rfl⟩

/-- To finish is to publish. -/
theorem publish_of_finish {store store' : S} {p : PendingIngest} {result : IngestionResult}
    (h : p.finish ports store = .ok (store', result)) :
    ∃ n, ports.publish_revision store p.publication = .ok (store', n) ∧ result = p.result n := by
  unfold PendingIngest.finish at h
  rw [bind_ok] at h
  obtain ⟨⟨store₁, n⟩, hpublish, h⟩ := h
  obtain ⟨rfl, rfl⟩ := Prod.mk.inj (pure_ok.mp h)
  exact ⟨n, hpublish, rfl⟩

/-- A tombstone is put by the store. -/
theorem tombstone_of_source {store store' : S} {key : SourceKey} {created_at : JsonFloat}
    {result : IngestionResult} (h : tombstoneSource ports store key created_at = .ok (store', result)) :
    ∃ n, ports.tombstone store key created_at = .ok (store', n) := by
  unfold tombstoneSource at h
  rw [bind_ok] at h
  obtain ⟨current, -, h⟩ := h
  cases current with
  | none => cases h
  | some current =>
    simp only at h
    rw [bind_ok] at h
    obtain ⟨⟨store₁, n⟩, htombstone, h⟩ := h
    obtain ⟨rfl, -⟩ := Prod.mk.inj (pure_ok.mp h)
    exact ⟨n, htombstone⟩

end ingest

/-! ## Section 3: Histories -/

/-- A store and the ingests that have read it and not yet published. -/
structure IngestState (S : Type) where
  store : S
  pending : List PendingIngest

/-- What happens to a store. -/
inductive IngestEvent where
  | begin (p : PendingIngest)
  /-- The publication is accepted. -/
  | finish (p : PendingIngest)
  /-- The publication is refused, or its worker is gone. -/
  | abandon (p : PendingIngest)
  | tombstone (key : SourceKey)
  | upsert

/-- The source that an accepted change is about. -/
def IngestEvent.source : IngestEvent → Option SourceKey
  | .finish p => some p.publication.key
  | .tombstone key => some key
  | _ => none

variable {S : Type}

/-- One step of any worker. -/
inductive IngestStep (ports : KnowledgePublisher S) :
    IngestState S → IngestEvent → IngestState S → Prop where
  | begin {st : IngestState S} {pipeline : IngestionPipeline} {document : SourceDocument}
      {created_at : JsonFloat} {p : PendingIngest}
      (h : pipeline.begin ports st.store document created_at = .ok (.pending p)) :
      IngestStep ports st (.begin p) { st with pending := p :: st.pending }
  | finish {st : IngestState S} {p : PendingIngest} {before after : List PendingIngest}
      {store' : S} {result : IngestionResult} (hpending : st.pending = before ++ p :: after)
      (h : p.finish ports st.store = .ok (store', result)) :
      IngestStep ports st (.finish p) ⟨store', before ++ after⟩
  | abandon {st : IngestState S} {p : PendingIngest} {before after : List PendingIngest}
      (hpending : st.pending = before ++ p :: after) :
      IngestStep ports st (.abandon p) { st with pending := before ++ after }
  | tombstone {st : IngestState S} {key : SourceKey} {created_at : JsonFloat} {store' : S}
      {result : IngestionResult}
      (h : tombstoneSource ports st.store key created_at = .ok (store', result)) :
      IngestStep ports st (.tombstone key) { st with store := store' }
  | upsertNodes {st : IngestState S} {nodes : List GraphNode} {store' : S}
      (h : ports.upsert_nodes st.store nodes = .ok store') :
      IngestStep ports st .upsert { st with store := store' }
  | upsertEdges {st : IngestState S} {edges : List GraphEdge} {store' : S}
      (h : ports.upsert_edges st.store edges = .ok store') :
      IngestStep ports st .upsert { st with store := store' }

/-- A step with the states around it. -/
structure IngestTransition (S : Type) where
  before : IngestState S
  event : IngestEvent
  after : IngestState S

/-- A run of any workers on a store. -/
inductive IngestRun (ports : KnowledgePublisher S) (initial : S) :
    List (IngestTransition S) → IngestState S → Prop where
  | nil : IngestRun ports initial [] ⟨initial, []⟩
  | step {ts : List (IngestTransition S)} {st st' : IngestState S} {event : IngestEvent}
      (hrun : IngestRun ports initial ts st) (h : IngestStep ports st event st') :
      IngestRun ports initial (ts ++ [⟨st, event, st'⟩]) st'

/-- What is left of the pending ingests was there before. -/
theorem mem_of_rest {p q : PendingIngest} {before after : List PendingIngest}
    (h : q ∈ before ++ after) : q ∈ before ++ p :: after :=
  ((List.sublist_cons_self p after).append_left before).subset h

/-- An ingest without a step between its two parts: all it publishes is its
    document. -/
theorem IngestRun.ingest_document {ports : KnowledgePublisher S} {initial : S}
    {ts : List (IngestTransition S)} {store : S} (hrun : IngestRun ports initial ts ⟨store, []⟩)
    {pipeline : IngestionPipeline} {document : SourceDocument} {created_at : JsonFloat}
    {store' : S} {result : IngestionResult}
    (h : pipeline.ingest ports store document created_at = .ok (store', result)) :
    ∃ more, IngestRun ports initial (ts ++ more) ⟨store', []⟩ ∧
      ∀ t ∈ more, ∀ p, t.event = .finish p → p.publication.document = document := by
  rcases ingest_ok h with ⟨rfl, -⟩ | ⟨p, n, hbegin, hpublish, -⟩
  · exact ⟨[], by rw [List.append_nil]; exact hrun, fun t ht => by cases ht⟩
  · have hfinish : p.finish ports store = .ok (store', p.result n) := by
      unfold PendingIngest.finish
      rw [hpublish]
      rfl
    have hfirst := hrun.step (IngestStep.begin hbegin)
    have hboth := hfirst.step (@IngestStep.finish _ _ _ p [] [] _ _ rfl hfinish)
    rw [List.append_assoc] at hboth
    refine ⟨_, hboth, ?_⟩
    intro t ht q hevent
    rcases List.mem_cons.mp ht with rfl | ht
    · cases hevent
    · obtain rfl := List.mem_singleton.mp ht
      obtain rfl := IngestEvent.finish.inj hevent
      exact (begin_pending hbegin).2.1

theorem IngestRun.ingest {ports : KnowledgePublisher S} {initial : S}
    {ts : List (IngestTransition S)} {store : S} (hrun : IngestRun ports initial ts ⟨store, []⟩)
    {pipeline : IngestionPipeline} {document : SourceDocument} {created_at : JsonFloat}
    {store' : S} {result : IngestionResult}
    (h : pipeline.ingest ports store document created_at = .ok (store', result)) :
    ∃ ts', IngestRun ports initial ts' ⟨store', []⟩ := by
  obtain ⟨more, hmore, -⟩ := hrun.ingest_document h
  exact ⟨ts ++ more, hmore⟩

/-- Each transition of a run is a step from a state that the run reached. -/
theorem IngestRun.of_mem {ports : KnowledgePublisher S} {initial : S}
    {ts : List (IngestTransition S)} {st : IngestState S} (hrun : IngestRun ports initial ts st)
    {t : IngestTransition S} (h : t ∈ ts) :
    ∃ earlier, earlier <+: ts ∧ IngestRun ports initial earlier t.before ∧
      IngestStep ports t.before t.event t.after := by
  induction hrun with
  | nil => cases h
  | @step ts st st' event hrun hstep ih =>
    rcases List.mem_append.mp h with hmem | hlast
    · obtain ⟨earlier, hextends, hreached⟩ := ih hmem
      exact ⟨earlier, hextends.trans (List.prefix_append ts _), hreached⟩
    · obtain rfl := List.mem_singleton.mp hlast
      exact ⟨ts, List.prefix_append ts _, hrun, hstep⟩

/-- A run is cut before its last step. -/
theorem IngestRun.of_append {ports : KnowledgePublisher S} {initial : S}
    {ts : List (IngestTransition S)} {t : IngestTransition S} {st : IngestState S}
    (hrun : IngestRun ports initial (ts ++ [t]) st) :
    IngestRun ports initial ts t.before ∧ IngestStep ports t.before t.event t.after ∧
      st = t.after := by
  generalize hts : ts ++ [t] = all at hrun
  cases hrun with
  | nil => simp at hts
  | step hrun hstep =>
    obtain ⟨rfl, hlast⟩ := List.append_inj' hts rfl
    obtain rfl := List.cons.inj hlast |>.1
    exact ⟨hrun, hstep, rfl⟩

/-- The transitions tell the state. -/
theorem IngestRun.state_eq {ports : KnowledgePublisher S} {initial : S}
    {ts : List (IngestTransition S)} {st st' : IngestState S} (h : IngestRun ports initial ts st)
    (h' : IngestRun ports initial ts st') : st = st' := by
  have hnil : ∀ {st}, IngestRun ports initial [] st → st = ⟨initial, []⟩ := by
    intro st hrun
    generalize hts : ([] : List (IngestTransition S)) = none at hrun
    cases hrun with
    | nil => rfl
    | step hrun hstep => simp at hts
  induction ts using List.reverseRecOn with
  | nil => rw [hnil h, hnil h']
  | append_singleton ts t ih => rw [h.of_append.2.2, h'.of_append.2.2]

/-- **Interval rule**: what every step between two states of one history
    relates, is related from the first to the second. -/
theorem IngestRun.related {ports : KnowledgePublisher S} {initial : S}
    {ts later : List (IngestTransition S)} {st st' : IngestState S}
    (h : IngestRun ports initial ts st) (h' : IngestRun ports initial (ts ++ later) st')
    (R : S → S → Prop) (hrefl : ∀ s, R s s) (htrans : ∀ {a b c}, R a b → R b c → R a c)
    (hstep : ∀ t ∈ later, R t.before.store t.after.store) : R st.store st'.store := by
  induction later using List.reverseRecOn generalizing st' with
  | nil =>
    rw [List.append_nil] at h'
    rw [h.state_eq h']
    exact hrefl _
  | append_singleton later t ih =>
    rw [← List.append_assoc] at h'
    obtain ⟨hbefore, -, rfl⟩ := h'.of_append
    have hlast : R t.before.store t.after.store :=
      hstep t (List.mem_append_right _ List.mem_cons_self)
    exact htrans (ih hbefore fun u hu => hstep u (List.mem_append_left _ hu)) hlast

/-- **Run rule**: what the initial store has and every step keeps, every reached
    store has. -/
theorem IngestRun.invariant {ports : KnowledgePublisher S} {initial : S}
    {ts : List (IngestTransition S)} {st : IngestState S} (hrun : IngestRun ports initial ts st)
    (Inv : IngestState S → Prop) (hinit : Inv ⟨initial, []⟩)
    (hstep : ∀ {st st' : IngestState S} {event : IngestEvent},
      Inv st → IngestStep ports st event st' → Inv st') : Inv st := by
  induction hrun with
  | nil => exact hinit
  | step hrun h ih => exact hstep ih h

end CBrain.Knowledge
