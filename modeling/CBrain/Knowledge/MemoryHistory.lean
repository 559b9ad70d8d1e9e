import CBrain.Knowledge.Ingestion
import CBrain.Knowledge.Retrieval

/-! # Histories of the in-memory store

    What any interleaving of ingests, tombstones and graph writes keeps of an
    in-memory store: its chunks are listed under their source, and a source
    that is not tombstoned has chunks of the revision it holds only.  Hence a
    hit of any retrieval is a chunk of a latest revision that the principal
    may read. -/

namespace CBrain.Knowledge

namespace InMemoryKnowledgeStore

/-! ## Section 1: What a store keeps -/

/-- Chunks are listed under their source, and parts of its latest revision. -/
structure Consistent (store : InMemoryKnowledgeStore) : Prop where
  listed : ∀ {chunk_id chunk}, store.chunks.get? chunk_id = some chunk →
    ∃ ids, store.live_chunks.get? chunk.key = some ids ∧ chunk_id ∈ ids
  current : ∀ {chunk_id chunk revision}, store.chunks.get? chunk_id = some chunk →
    store.revisions.get? chunk.key = some revision → revision.tombstoned = false →
      chunk.PartOf revision

theorem consistent_empty : empty.Consistent where
  listed h := by cases h
  current h := by cases h

/-- Where a chunk of the store after a publication comes from: it was published,
    or it was there before and is of another source. -/
theorem chunk_of_written {store : InMemoryKnowledgeStore} (hc : store.Consistent)
    {p : Publication} {chunk_id : String} {chunk : KnowledgeChunk}
    (h : (store.written p).chunks.get? chunk_id = some chunk) :
    (chunk ∈ p.chunks ∧ chunk.chunk_id = chunk_id) ∨
      (chunk.key ≠ p.key ∧ store.chunks.get? chunk_id = some chunk) := by
  rcases Registry.get?_putAll_cases h with hnew | ⟨-, hold⟩
  · exact Or.inl hnew
  · rw [Registry.get?_removeAll] at hold
    by_cases hremoved : chunk_id ∈ (store.live_chunks.get? p.key).getD []
    · rw [if_pos hremoved] at hold
      cases hold
    · rw [if_neg hremoved] at hold
      refine Or.inr ⟨?_, hold⟩
      -- A chunk of the published source would have been listed, and removed.
      intro hkey
      obtain ⟨ids, hids, hmem⟩ := hc.listed hold
      rw [hkey] at hids
      rw [hids] at hremoved
      exact hremoved hmem

theorem Consistent.written {store : InMemoryKnowledgeStore} (hc : store.Consistent)
    (p : Publication) : (store.written p).Consistent where
  listed := by
    intro chunk_id chunk h
    rcases chunk_of_written hc h with ⟨hmem, hid⟩ | ⟨hkey, hold⟩
    · refine ⟨p.chunk_ids, ?_, ?_⟩
      · rw [Publication.key_of_mem hmem]
        exact Table.get?_set_self _ _ _
      · rw [← hid]
        exact List.mem_map_of_mem hmem
    · obtain ⟨ids, hids, hmem⟩ := hc.listed hold
      refine ⟨ids, ?_, hmem⟩
      rw [← hids]
      exact Table.get?_set_ne _ _ hkey
  current := by
    intro chunk_id chunk revision h hrevision hlive
    have hset : (store.written p).revisions.get? chunk.key =
        if chunk.key = p.key then some p.revision else store.revisions.get? chunk.key :=
      Table.get?_set _ _ _ _
    rw [hset] at hrevision
    rcases chunk_of_written hc h with ⟨hmem, -⟩ | ⟨hkey, hold⟩
    · rw [if_pos (Publication.key_of_mem hmem)] at hrevision
      obtain rfl := Option.some.inj hrevision
      exact p.parts chunk hmem
    · rw [if_neg hkey] at hrevision
      exact hc.current hold hrevision hlive

/-- What an accepted publication is. -/
theorem publishRevision_ok {store store' : InMemoryKnowledgeStore} {p : Publication} {n : Nat}
    (h : store.publishRevision p = .ok (store', n)) :
    store' = store.written p ∧ n = store.nextRevision p.key.collection := by
  unfold publishRevision at h
  rw [require_bind_ok] at h
  obtain ⟨-, h⟩ := h
  rw [require_bind_ok] at h
  obtain ⟨-, h⟩ := h
  obtain ⟨rfl, rfl⟩ := Prod.mk.inj (pure_ok.mp h)
  exact ⟨rfl, rfl⟩

/-- What a tombstone is. -/
theorem tombstone_ok {store store' : InMemoryKnowledgeStore} {key : SourceKey}
    {created_at : JsonFloat} {n : Nat} (h : store.tombstone key created_at = .ok (store', n)) :
    ∃ current time, store.revisions.get? key = some current ∧
      store'.revisions = store.revisions.set key (tombstoneOf key current time) ∧
      store'.collection_revisions = store.collection_revisions.set key.collection
        (store.nextRevision key.collection) ∧
      store'.chunks = store.chunks ∧ store'.live_chunks = store.live_chunks ∧
      store'.embeddings = store.embeddings := by
  unfold tombstone at h
  match hcurrent : store.revisions.get? key with
  | none =>
    simp only [hcurrent] at h
    cases h
  | some current =>
    simp only [hcurrent] at h
    rw [bind_ok] at h
    obtain ⟨time, -, h⟩ := h
    obtain ⟨rfl, -⟩ := Prod.mk.inj (pure_ok.mp h)
    exact ⟨current, time, rfl, rfl, rfl, rfl, rfl, rfl⟩

theorem Consistent.tombstone {store store' : InMemoryKnowledgeStore} (hc : store.Consistent)
    {key : SourceKey} {created_at : JsonFloat} {n : Nat}
    (h : store.tombstone key created_at = .ok (store', n)) : store'.Consistent := by
  obtain ⟨current, time, -, hrevisions, -, hchunks, hlive, -⟩ := tombstone_ok h
  constructor
  · intro chunk_id chunk hchunk
    rw [hchunks] at hchunk
    rw [hlive]
    exact hc.listed hchunk
  · intro chunk_id chunk revision hchunk hrevision hnot
    rw [hchunks] at hchunk
    rw [hrevisions, Table.get?_set] at hrevision
    by_cases hkey : chunk.key = key
    · -- The source is tombstoned now.
      rw [if_pos hkey] at hrevision
      obtain rfl := Option.some.inj hrevision
      cases hnot
    · rw [if_neg hkey] at hrevision
      exact hc.current hchunk hrevision hnot

/-! ## Section 2: Steps and runs -/

/-- What `finish` does to an in-memory store. -/
theorem finish_ok {store store' : InMemoryKnowledgeStore} {p : PendingIngest}
    {result : IngestionResult} (h : p.finish publisher store = .ok (store', result)) :
    store' = store.written p.publication := by
  obtain ⟨n, hpublish, -⟩ := publish_of_finish h
  exact (publishRevision_ok hpublish).1

theorem Consistent.step {st st' : IngestState InMemoryKnowledgeStore} {event : IngestEvent}
    (hc : st.store.Consistent) (h : IngestStep publisher st event st') :
    st'.store.Consistent := by
  cases h with
  | begin hbegin => exact hc
  | finish hpending hfinish =>
    rw [finish_ok hfinish]
    exact hc.written _
  | abandon hpending => exact hc
  | tombstone htombstone =>
    obtain ⟨n, hstore⟩ := tombstone_of_source htombstone
    exact hc.tombstone hstore
  | upsertNodes hupsert =>
    obtain rfl := Except.ok.inj hupsert
    exact ⟨hc.listed, hc.current⟩
  | upsertEdges hupsert =>
    obtain rfl := Except.ok.inj hupsert
    exact ⟨hc.listed, hc.current⟩

/-- Every reached store is consistent. -/
theorem consistent_of_run {ts : List (IngestTransition InMemoryKnowledgeStore)}
    {st : IngestState InMemoryKnowledgeStore} (hrun : IngestRun publisher empty ts st) :
    st.store.Consistent :=
  hrun.invariant (fun st => st.store.Consistent) consistent_empty fun hc h => hc.step h

/-! ## Section 3: Loading -/

theorem findChunk_eq_some {store : InMemoryKnowledgeStore} {chunk_id : String}
    {chunk : KnowledgeChunk} :
    store.findChunk chunk_id = some chunk ↔
      store.chunks.get? chunk_id = some chunk ∧
        ∃ revision, store.revisions.get? chunk.key = some revision ∧
          revision.tombstoned = false := by
  unfold findChunk
  rw [Option.filter_eq_some_iff]
  refine and_congr_right fun _ => ?_
  unfold isTombstoned
  cases hrevision : store.revisions.get? chunk.key with
  | none => simp
  | some revision => simp

/-- The chunk is one of the latest revision of its source, which is not
    tombstoned. -/
def Latest (store : InMemoryKnowledgeStore) (chunk : KnowledgeChunk) : Prop :=
  store.chunks.get? chunk.chunk_id = some chunk ∧
    ∃ revision, store.getRevision chunk.key = some revision ∧ revision.tombstoned = false ∧
      chunk.source_revision = revision.source_revision

theorem Consistent.latest_of_find {store : InMemoryKnowledgeStore} (hc : store.Consistent)
    {chunk_id : String} {chunk : KnowledgeChunk} (h : store.findChunk chunk_id = some chunk) :
    store.Latest chunk := by
  obtain ⟨hget, revision, hrevision, hlive⟩ := findChunk_eq_some.mp h
  constructor
  · rw [Registry.key_of_get? hget]
    exact hget
  · exact ⟨revision, hrevision, hlive, (hc.current hget hrevision hlive).source_revision⟩

/-- What retrieval loads from an in-memory store. -/
theorem find_of_loaded {F : Type} [Score F] {store : InMemoryKnowledgeStore}
    {similarity : List Decimal → List Decimal → F} {casefold : String → String}
    {query : RetrievalQuery} {chunk : KnowledgeChunk}
    (h : HybridRetriever.Loaded (store.reader similarity casefold) query chunk) :
    HybridRetriever.readable query chunk = true ∧
      ∃ chunk_id, store.findChunk chunk_id = some chunk := by
  obtain ⟨hread, chunk_ids, loaded, hload, hmem⟩ := h
  obtain rfl := Except.ok.inj hload
  obtain ⟨chunk_id, -, hfind⟩ := List.mem_filterMap.mp hmem
  exact ⟨hread, chunk_id, hfind⟩

end InMemoryKnowledgeStore

/-! ## Section 4: A small collection

    Two documents of one tenant; the graph leads from the second to the
    first. -/

/-- The tenant has a name, and what it is asked has a text. -/
theorem isRequiredText_acme : isRequiredText "acme" = true := by decide

theorem isRequiredText_rota : isRequiredText "rota" = true := by decide

/-- A whole number of seconds, or the one component of a vector. -/
def whole (n : Nat) : Decimal := Decimal.ofInt n 0

/-- Texts are embedded by their first letter. -/
def letterProfile : EmbeddingProfile where
  profile_id := ⟨"letter", by decide⟩
  model_id := ⟨"first-letter", by decide⟩
  dimension := 1
  distance_metric := .cosine
  normalization_version := ⟨"v1", by decide⟩
  dimension_pos := Nat.one_pos

def letterVector (text : String) : List Decimal := [whole (text.toList.head?.elim 0 Char.toNat)]

/-- One letter is as good as another, unless it is the same. -/
def sameLetter (left right : List Decimal) : ℚ := if left = right then 1 else 0

/-- The default settings, with one candidate from the vector search. -/
def opsConfig : KnowledgeConfig where
  cache_ttl_seconds := whole 30
  max_document_bytes := 65536
  chunk_size := 160
  chunk_overlap := 32
  top_k := 4
  vector_candidate_count := 1
  keyword_candidate_count := 8
  graph_max_depth := 2
  graph_max_nodes := 16
  embedding_profile := letterProfile
  max_context_chunks := 4
  max_context_bytes := 4096
  max_context_tokens := 512
  policy_version := ⟨"v1", by decide⟩
  cache_ttl_pos := by decide +kernel
  max_document_bytes_pos := by decide
  chunk_overlap_lt := by decide
  top_k_pos := by decide
  vector_candidate_count_pos := Nat.one_pos
  keyword_candidate_count_pos := by decide
  graph_max_depth_pos := by decide
  graph_max_nodes_pos := by decide
  max_context_chunks_pos := by decide
  max_context_bytes_pos := by decide
  max_context_tokens_pos := by decide

def acme : RequiredText := ⟨"acme", isRequiredText_acme⟩
def ops : RequiredText := ⟨"ops", by decide⟩
def faq : RequiredText := ⟨"faq", by decide⟩
def shifts : RequiredText := ⟨"log", by decide⟩
def alice : RequiredText := ⟨"alice", by decide⟩

/-- The node of a source, supported by one of its chunks. -/
def sourceNode (chunk : KnowledgeChunk) (chunk_id : RequiredText) : GraphNode where
  node_id := chunk.source_id
  tenant_id := chunk.tenant_id
  canonical_type := ⟨"source", by decide⟩
  canonical_name := chunk.source_id
  provenance_chunk_ids := [chunk_id]
  confidence := whole 1
  valid_from := chunk.created_at
  valid_to := none
  source_revision := chunk.source_revision
  source_id := chunk.source_id
  schema_version := knowledgeSchemaVersion
  provenance_ne := by simp

/-- An edge from the node of a chunk's source to the node of the FAQ. -/
def faqEdge (chunk : KnowledgeChunk) (chunk_id : RequiredText) : GraphEdge where
  edge_id := chunk.source_id
  tenant_id := chunk.tenant_id
  source_node_id := chunk.source_id
  relation_type := ⟨"see", by decide⟩
  target_node_id := faq
  provenance_chunk_ids := [chunk_id]
  confidence := whole 1
  valid_from := chunk.created_at
  valid_to := none
  source_revision := chunk.source_revision
  source_id := chunk.source_id
  schema_version := knowledgeSchemaVersion
  provenance_ne := by simp

def opsPipeline : IngestionPipeline where
  config := opsConfig
  embed texts _ := .ok (texts.map letterVector)
  extract chunk :=
    if h : isRequiredText chunk.chunk_id = true then
      .ok ([sourceNode chunk ⟨chunk.chunk_id, h⟩],
        if chunk.source_id = faq then [] else [faqEdge chunk ⟨chunk.chunk_id, h⟩])
    else .ok ([], [])
  first _ := wildcard

def faqDocument : SourceDocument where
  tenant_id := acme
  collection_id := ops
  source_id := faq
  media_type := .plain
  text := "pager rota"
  acl_principals := {alice}
  created_at := whole 1
  provenance := ⟨"wiki", by decide⟩
  text_ne := by decide
  text_null := by decide

def logDocument : SourceDocument :=
  { faqDocument with
    source_id := shifts
    text := "rota week two"
    acl_principals := {wildcard}
    text_ne := by decide
    text_null := by decide }

/-- The two documents ingested one after the other. -/
def opsRun : Raises InMemoryKnowledgeStore := do
  let (store, _) ← opsPipeline.ingest InMemoryKnowledgeStore.publisher InMemoryKnowledgeStore.empty
    faqDocument (.finite (whole 1))
  let (store, _) ← opsPipeline.ingest InMemoryKnowledgeStore.publisher store logDocument
    (.finite (whole 2))
  pure store

def faqId : RequiredText :=
  ⟨"e8dd8dcf9caaf4beaf2feccb309e9f868ef2df109f2f1f7d11262fd7b14b0987", by decide⟩

def logId : RequiredText :=
  ⟨"6ca85167f40aea0c7db149113ae994c6b331f0c36115f7249c57bf218aee1b4c", by decide⟩

def faqChunk : KnowledgeChunk where
  chunk_id := faqId.val
  tenant_id := acme
  collection_id := ops
  source_id := faq
  source_revision := 1
  chunk_index := 0
  text := "pager rota"
  content_digest := "4db1f728f2b51be34efdd501646576a1ffb0bff78156d81dab0bc983d48c58c6"
  provenance := faqDocument.provenance
  acl_principals := {alice}
  created_at := whole 1
  schema_version := 1
  source_revision_pos := Nat.one_pos
  text_ne := by decide

def logChunk : KnowledgeChunk :=
  { faqChunk with
    chunk_id := logId.val
    source_id := shifts
    text := "rota week two"
    content_digest := "837d802f26549b29e5a9d42df2b39add5bb167cc2ec1b201bc5de152872311dd"
    acl_principals := {wildcard}
    created_at := whole 2
    text_ne := by decide }

/-- A revision that is made of one chunk. -/
def revisionOf (chunk : KnowledgeChunk) : DocumentRevision where
  tenant_id := chunk.tenant_id
  collection_id := chunk.collection_id
  source_id := chunk.source_id
  source_revision := chunk.source_revision
  content_digest := chunk.content_digest
  provenance := chunk.provenance
  acl_principals := chunk.acl_principals
  created_at := chunk.created_at
  schema_version := chunk.schema_version
  tombstoned := false
  source_revision_pos := chunk.source_revision_pos

/-- The store after the FAQ. -/
def faqStore : InMemoryKnowledgeStore where
  revisions := ⟨[(faqChunk.key, revisionOf faqChunk)], by decide⟩
  chunks := ⟨⟨[(faqId.val, faqChunk)], by decide⟩, by decide⟩
  live_chunks := ⟨[(faqChunk.key, [faqId.val])], by decide⟩
  embeddings := ⟨[(faqId.val, [whole 112])], by decide⟩
  nodes := ⟨⟨[(faq, sourceNode faqChunk faqId)], by decide⟩, by decide⟩
  edges := ⟨⟨[], by decide⟩, by decide⟩
  collection_revisions := ⟨[(faqChunk.key.collection, 1)], by decide⟩
  profiles := ⟨[(faqChunk.key.collection, letterProfile)], by decide⟩

/-- The store after the two documents. -/
def opsStore : InMemoryKnowledgeStore where
  revisions := ⟨[(faqChunk.key, revisionOf faqChunk), (logChunk.key, revisionOf logChunk)],
    by decide⟩
  chunks := ⟨⟨[(faqId.val, faqChunk), (logId.val, logChunk)], by decide⟩, by decide⟩
  live_chunks := ⟨[(faqChunk.key, [faqId.val]), (logChunk.key, [logId.val])], by decide⟩
  embeddings := ⟨[(faqId.val, [whole 112]), (logId.val, [whole 114])], by decide⟩
  nodes := ⟨⟨[(faq, sourceNode faqChunk faqId), (shifts, sourceNode logChunk logId)],
    by decide⟩, by decide⟩
  edges := ⟨⟨[(shifts, faqEdge logChunk logId)], by decide⟩, by decide⟩
  collection_revisions := ⟨[(faqChunk.key.collection, 2)], by decide⟩
  profiles := ⟨[(faqChunk.key.collection, letterProfile)], by decide⟩

theorem faq_ingested :
    (opsPipeline.ingest InMemoryKnowledgeStore.publisher InMemoryKnowledgeStore.empty
      faqDocument (.finite (whole 1))).map Prod.fst = .ok faqStore := by
  decide +kernel

theorem log_ingested :
    (opsPipeline.ingest InMemoryKnowledgeStore.publisher faqStore
      logDocument (.finite (whole 2))).map Prod.fst = .ok opsStore := by
  decide +kernel

theorem opsRun_eq : opsRun = .ok opsStore := by
  obtain ⟨⟨first, result₁⟩, hfirst, hstore⟩ := map_ok.mp faq_ingested
  obtain ⟨⟨second, result₂⟩, hsecond, hstore'⟩ := map_ok.mp log_ingested
  obtain rfl : first = faqStore := hstore
  obtain rfl : second = opsStore := hstore'
  simp only [opsRun, hfirst, hsecond, ok_bind]
  rfl

/-- Nobody else writes: the store is reached by a run. -/
theorem opsStore_reached :
    ∃ ts, IngestRun InMemoryKnowledgeStore.publisher InMemoryKnowledgeStore.empty ts
      ⟨opsStore, []⟩ := by
  have heq := opsRun_eq
  unfold opsRun at heq
  rw [bind_ok] at heq
  obtain ⟨⟨first, result₁⟩, hfirst, heq⟩ := heq
  rw [bind_ok] at heq
  obtain ⟨⟨second, result₂⟩, hsecond, heq⟩ := heq
  obtain rfl := pure_ok.mp heq
  obtain ⟨ts₁, hrun₁⟩ := IngestRun.nil.ingest hfirst
  exact hrun₁.ingest hsecond

def opsRetriever (expand_graph : Bool) : HybridRetriever where
  config := opsConfig
  embed texts _ := .ok (texts.map letterVector)
  expand_graph := expand_graph

def opsQuery (text : RequiredText) : RetrievalQuery where
  tenant_id := acme
  collection_id := ops
  principal_id := alice
  text := text
  top_k := 4
  created_at := whole 3
  policy_version := ⟨"v1", by decide⟩
  top_k_pos := by decide

/-! ## Section 5: Retrieval returns what may be read -/

open InMemoryKnowledgeStore in
/-- After any history, and whatever the cache answers, each hit is a chunk of
    the query's tenant and collection, of the latest revision of its source,
    and lists the query's principal or the wildcard. -/
theorem hits_readable {F : Type} [Score F] {ts : List (IngestTransition InMemoryKnowledgeStore)}
    {st : IngestState InMemoryKnowledgeStore} (hrun : IngestRun publisher empty ts st)
    {r : HybridRetriever} {similarity : List Decimal → List Decimal → F}
    {casefold : String → String} {query : RetrievalQuery} {cached stored : Option (List String)}
    {context : RetrievedContext F}
    (h : r.retrieveWith (st.store.reader similarity casefold) casefold query cached =
      .ok (context, stored)) :
    ∀ hit ∈ context.hits,
      hit.chunk.tenant_id = query.tenant_id ∧ hit.chunk.collection_id = query.collection_id ∧
        st.store.Latest hit.chunk ∧
          (query.principal_id ∈ hit.chunk.acl_principals ∨ wildcard ∈ hit.chunk.acl_principals) := by
  intro hit hhit
  have hloaded := HybridRetriever.retrieveWith_loaded h hit hhit
  obtain ⟨hread, chunk_id, hfind⟩ := find_of_loaded hloaded
  have hlatest := (consistent_of_run hrun).latest_of_find hfind
  unfold HybridRetriever.readable authorized at hread
  simp only [Bool.and_eq_true, Bool.or_eq_true, decide_eq_true_eq] at hread
  obtain ⟨⟨htenant, hcollection⟩, hacl⟩ := hread
  exact ⟨htenant, hcollection, hlatest, hacl⟩

/-- Alice is answered from a cache entry that also names a chunk that is gone. -/
theorem hits_readable_ops :
    ∃ context stored,
      (opsRetriever true).retrieveWith (opsStore.reader sameLetter id) id
          (opsQuery ⟨"rota", by decide⟩) (some [faqId.val, logId.val, "gone"]) =
        .ok (context, stored) ∧
      context.hits.length = 2 ∧
      ∀ hit ∈ context.hits,
        opsStore.Latest hit.chunk ∧
          (alice ∈ hit.chunk.acl_principals ∨ wildcard ∈ hit.chunk.acl_principals) := by
  obtain ⟨ts, hrun⟩ := opsStore_reached
  have hlength : ((opsRetriever true).retrieveWith (opsStore.reader sameLetter id) id
      (opsQuery ⟨"rota", by decide⟩) (some [faqId.val, logId.val, "gone"])).map
        (fun answer => answer.1.hits.length) = .ok 2 := by
    decide +kernel
  obtain ⟨⟨context, stored⟩, hretrieve, htwo⟩ := map_ok.mp hlength
  refine ⟨context, stored, hretrieve, htwo, ?_⟩
  intro hit hhit
  obtain ⟨-, -, hlatest, hacl⟩ := hits_readable hrun hretrieve hit hhit
  exact ⟨hlatest, hacl⟩

end CBrain.Knowledge
