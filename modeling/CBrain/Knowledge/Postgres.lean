import CBrain.Knowledge.Ports
import Mathlib.Algebra.Order.Floor.Defs
import Mathlib.Data.List.MinMax
import Mathlib.Data.Rat.Floor

/-! # The PostgreSQL store

    Models `PostgresKnowledgeStore` (`cbrain/knowledge/stores/postgres.py`)
    over the tables of `migrations/postgres/002_knowledge_runtime.sql`, with
    their primary keys, foreign keys and checks.

    A method that writes runs in one transaction under a lock on the
    collection's row, so it is one step on the tables; where it raises, the
    tables stay as they were.  The two ranked searches are the database's and
    parameters of the store's reader. -/

namespace CBrain.Knowledge

/-! ## Section 1: Tables -/

/-- `INDEXED_EMBEDDING_DIMENSION`. -/
def indexedEmbeddingDimension : Nat := 8

/-- A row of `knowledge_collections`. -/
structure CollectionRow where
  profile : EmbeddingProfile
  collection_revision : Nat
  deriving DecidableEq

/-- The primary key of `knowledge_documents`. -/
structure RevisionKey where
  source : SourceKey
  source_revision : Nat
  deriving DecidableEq

/-- The source of a revision. -/
def DocumentRevision.key (revision : DocumentRevision) : SourceKey :=
  ⟨revision.tenant_id, revision.collection_id, revision.source_id⟩

/-- The primary key of a revision's row. -/
def DocumentRevision.rowKey (revision : DocumentRevision) : RevisionKey :=
  ⟨revision.key, revision.source_revision⟩

/-- The revision that a chunk references. -/
def KnowledgeChunk.revisionKey (chunk : KnowledgeChunk) : RevisionKey :=
  ⟨chunk.key, chunk.source_revision⟩

/-- A row of `knowledge_embeddings`. -/
structure EmbeddingRow where
  collection : CollectionKey
  embedding : List Decimal
  profile_id : RequiredText
  deriving DecidableEq

/-- A row of `ingestion_jobs`, all of which are completed. -/
structure JobRow where
  source : SourceKey
  deriving DecidableEq

/-- The tables. -/
structure PostgresKnowledgeStore where
  collections : Table CollectionKey CollectionRow
  documents : Registry RevisionKey DocumentRevision DocumentRevision.rowKey
  chunks : Registry String KnowledgeChunk KnowledgeChunk.chunk_id
  embeddings : Table String EmbeddingRow
  nodes : Registry RequiredText GraphNode GraphNode.node_id
  edges : Registry RequiredText GraphEdge GraphEdge.edge_id
  revisions : Finset (CollectionKey × Nat)
  jobs : Table String JobRow
  deriving DecidableEq

/-- What the driver raises for a constraint that a statement violates. -/
def violation (name : String) : Exn := ⟨.other, name, []⟩

/-- The clause `except KnowledgeError: raise`, `except Exception: raise
    _unavailable(exc)` around a transaction. -/
def transaction {α : Type} (result : Raises α) : Raises α :=
  result.mapError fun e => if e.kind = .knowledgeError then e else knowledgeUnavailable

/-- The nearest integer, a tie going to the even one. -/
def roundHalfEven (x : ℚ) : Int :=
  let below := ⌊x⌋
  let rest := x - below
  if rest < 1 / 2 then below
  else if 1 / 2 < rest then below + 1
  else if below % 2 = 0 then below else below + 1

/-- `_timestamp`, and what the column holds of it: whole microseconds of the
    years 1 to 9999. -/
def timestamp (value : Decimal) : Raises Decimal :=
  let micros := roundHalfEven (value.toRat * 1000000)
  if -62135596800000000 ≤ micros ∧ micros < 253402300800000000 then
    .ok (Decimal.ofInt micros (-6))
  else .error (Exn.of .valueError "year is out of range")

/-- `_timestamp` of a time that may be missing. -/
def timestamp? : Option Decimal → Raises (Option Decimal)
  | none => .ok none
  | some value => (timestamp value).map some

namespace PostgresKnowledgeStore

/-- Tables without rows. -/
def empty : PostgresKnowledgeStore where
  collections := Table.empty
  documents := Registry.empty
  chunks := Registry.empty
  embeddings := Table.empty
  nodes := Registry.empty
  edges := Registry.empty
  revisions := ∅
  jobs := Table.empty

variable (store : PostgresKnowledgeStore)

/-! ## Section 2: Reads -/

/-- `get_revision`: the row of the source with the greatest number. -/
def getRevision (key : SourceKey) : Option DocumentRevision :=
  (store.documents.values.filter fun revision => revision.key = key).argmax
    DocumentRevision.source_revision

/-- The joins of a live chunk: its revision is the latest of its source, and not
    tombstoned. -/
def isLive (chunk : KnowledgeChunk) : Bool :=
  match store.getRevision chunk.key with
  | none => false
  | some revision =>
    revision.source_revision = chunk.source_revision && !revision.tombstoned

/-- `list_live_chunks`. -/
def listLiveChunks (collection : CollectionKey) (principal_id : RequiredText) :
    List KnowledgeChunk :=
  (store.chunks.values.filter fun chunk =>
    chunk.key.collection = collection && store.isLive chunk &&
      authorized chunk principal_id).sortBy KnowledgeChunk.chunk_id

/-- The chunk that `load_chunks` finds under an id. -/
def findChunk (chunk_id : String) : Option KnowledgeChunk :=
  (store.chunks.get? chunk_id).filter store.isLive

/-- `load_chunks`. -/
def loadChunks (chunk_ids : List String) : List KnowledgeChunk :=
  chunk_ids.filterMap store.findChunk

/-- `collection_revision`. -/
def collectionRevision (collection : CollectionKey) : Nat :=
  match store.collections.get? collection with
  | none => 0
  | some row => row.collection_revision

/-- `embedding_profile`. -/
def embeddingProfile (collection : CollectionKey) : Option EmbeddingProfile :=
  (store.collections.get? collection).map CollectionRow.profile

/-- `nodes_for_chunks`. -/
def nodesForChunks (chunk_ids : List String) : List GraphNode :=
  store.nodes.values.filter fun node =>
    node.provenance_chunk_ids.any fun chunk_id => chunk_id.val ∈ chunk_ids

/-- The subquery `EXISTS` of `traverse`: one of the ids is a live chunk of the
    tenant that the principal may read. -/
def supported (tenant_id principal_id : RequiredText) (provenance : List RequiredText) : Bool :=
  provenance.any fun chunk_id =>
    ((store.findChunk chunk_id.val).filter fun chunk =>
      chunk.tenant_id = tenant_id && authorized chunk principal_id).isSome

/-- The node of a key, if `traverse` shows it. -/
def visibleNode (tenant_id principal_id node_id : RequiredText) : Option GraphNode :=
  (store.nodes.get? node_id).filter fun node =>
    node.tenant_id = tenant_id && store.supported tenant_id principal_id node.provenance_chunk_ids

/-- The edges that `traverse` shows between visible nodes. -/
def supportedEdges (tenant_id principal_id : RequiredText) : List GraphEdge :=
  store.edges.values.filter fun edge =>
    edge.tenant_id = tenant_id && store.supported tenant_id principal_id edge.provenance_chunk_ids

/-- `traverse`.  Its citations are looked up among the loaded chunks of all
    visible nodes. -/
def traverse (tenant_id principal_id : RequiredText) (seed_node_ids : List RequiredText)
    (max_depth max_nodes : Nat) : List GraphPath :=
  boundedWalk
    (visibleGraph (store.visibleNode tenant_id principal_id)
      (store.supportedEdges tenant_id principal_id))
    seed_node_ids max_depth max_nodes (citationsForNodes store.findChunk)

/-! ## Section 3: Statements -/

/-- `INSERT INTO knowledge_documents`. -/
def insertDocument (revision : DocumentRevision) : Raises PostgresKnowledgeStore := do
  let created_at ← timestamp revision.created_at
  require (revision.acl_principals ≠ ∅) (violation "CheckViolation")
  require (store.documents.get? revision.rowKey = none) (violation "UniqueViolation")
  require ((store.collections.get? revision.key.collection).isSome)
    (violation "ForeignKeyViolation")
  pure { store with documents := store.documents.put { revision with created_at := created_at } }

/-- `INSERT INTO knowledge_chunks`. -/
def insertChunk (chunk : KnowledgeChunk) : Raises PostgresKnowledgeStore := do
  let created_at ← timestamp chunk.created_at
  require (chunk.acl_principals ≠ ∅) (violation "CheckViolation")
  require (store.chunks.get? chunk.chunk_id = none) (violation "UniqueViolation")
  require (∀ row ∈ store.chunks.values,
      ¬ (row.revisionKey = chunk.revisionKey ∧ row.chunk_index = chunk.chunk_index))
    (violation "UniqueViolation")
  require ((store.documents.get? chunk.revisionKey).isSome) (violation "ForeignKeyViolation")
  pure { store with chunks := store.chunks.put { chunk with created_at := created_at } }

/-- `INSERT INTO knowledge_embeddings`. -/
def insertEmbedding (collection : CollectionKey) (profile : EmbeddingProfile)
    (row : String × List Decimal) : Raises PostgresKnowledgeStore := do
  require (store.embeddings.get? row.1 = none) (violation "UniqueViolation")
  require ((store.chunks.get? row.1).isSome) (violation "ForeignKeyViolation")
  pure { store with
    embeddings := store.embeddings.set row.1 ⟨collection, row.2, profile.profile_id⟩ }

/-- `_insert_node`: of a node that is there only the provenance and the
    confidence change. -/
def insertNode (node : GraphNode) : Raises PostgresKnowledgeStore := do
  let valid_from ← timestamp node.valid_from
  let valid_to ← timestamp? node.valid_to
  match store.nodes.get? node.node_id with
  | none =>
    pure { store with
      nodes := store.nodes.put { node with valid_from := valid_from, valid_to := valid_to } }
  | some old =>
    pure { store with
      nodes := store.nodes.put
        { old with
          provenance_chunk_ids := node.provenance_chunk_ids
          confidence := node.confidence
          provenance_ne := node.provenance_ne } }

/-- `_insert_edge`: the nodes of a new edge must be there. -/
def insertEdge (edge : GraphEdge) : Raises PostgresKnowledgeStore := do
  let valid_from ← timestamp edge.valid_from
  let valid_to ← timestamp? edge.valid_to
  match store.edges.get? edge.edge_id with
  | none => do
    require ((store.nodes.get? edge.source_node_id).isSome ∧
      (store.nodes.get? edge.target_node_id).isSome) (violation "ForeignKeyViolation")
    pure { store with
      edges := store.edges.put { edge with valid_from := valid_from, valid_to := valid_to } }
  | some old =>
    pure { store with
      edges := store.edges.put
        { old with
          provenance_chunk_ids := edge.provenance_chunk_ids
          confidence := edge.confidence
          provenance_ne := edge.provenance_ne } }

/-- One statement for each element. -/
def insertAll {A : Type} (insert : PostgresKnowledgeStore → A → Raises PostgresKnowledgeStore) :
    List A → PostgresKnowledgeStore → Raises PostgresKnowledgeStore
  | [], store => .ok store
  | x :: xs, store => do
    let store ← insert store x
    insertAll insert xs store

/-- `UPDATE knowledge_collections`, then `INSERT INTO knowledge_revisions`. -/
def bumpRevision (collection : CollectionKey) : Raises (PostgresKnowledgeStore × Nat) :=
  match store.collections.get? collection with
  | none => .error ⟨.other, "AssertionError", []⟩
  | some row => do
    let collection_revision := row.collection_revision + 1
    require ((collection, collection_revision) ∉ store.revisions) (violation "UniqueViolation")
    pure ({ store with
      collections := store.collections.set collection
        { row with collection_revision := collection_revision }
      revisions := insert (collection, collection_revision) store.revisions }, collection_revision)

/-- The key of a job. -/
def jobId (key : SourceKey) (source_revision : Nat) : String :=
  s!"{key.tenant_id.val}:{key.collection_id.val}:{key.source_id.val}:{source_revision}"

/-- `INSERT INTO ingestion_jobs`. -/
def insertJob (key : SourceKey) (source_revision : Nat) : Raises PostgresKnowledgeStore := do
  require (store.jobs.get? (jobId key source_revision) = none) (violation "UniqueViolation")
  pure { store with jobs := store.jobs.set (jobId key source_revision) ⟨key⟩ }

/-! ## Section 4: Transactions -/

/-- `INSERT INTO knowledge_collections ... ON CONFLICT DO NOTHING`. -/
def withCollection (collection : CollectionKey) (profile : EmbeddingProfile) :
    PostgresKnowledgeStore :=
  match store.collections.get? collection with
  | none => { store with collections := store.collections.set collection ⟨profile, 0⟩ }
  | some _ => store

/-- The source already holds the content: its latest revision is live and has
    the digest. -/
def holdsContent (key : SourceKey) (content_digest : String) : Bool :=
  match store.getRevision key with
  | none => false
  | some existing => !existing.tombstoned && existing.content_digest = content_digest

/-- The statements of `_publish_in_transaction` from the document on. -/
def writePublication (p : Publication) : Raises (PostgresKnowledgeStore × Nat) := do
  let store ← store.insertDocument p.revision
  let store ← insertAll insertChunk p.chunks store
  let store ← insertAll (fun store row => store.insertEmbedding p.key.collection p.profile row)
    p.embeddings.rows store
  let store ← insertAll insertNode p.nodes store
  let store ← insertAll insertEdge p.edges store
  let (store, collection_revision) ← store.bumpRevision p.key.collection
  let store ← store.insertJob p.key p.revision.source_revision
  pure (store, collection_revision)

/-- `_publish_in_transaction`. -/
def publishInTransaction (p : Publication) : Raises (PostgresKnowledgeStore × Nat) := do
  let store := store.withCollection p.key.collection p.profile
  match store.collections.get? p.key.collection with
  | none => .error knowledgeUnavailable
  | some row => do
    require (row.profile = p.profile)
      (knowledgeError "embedding profile is immutable after first revision")
    if store.holdsContent p.key p.revision.content_digest then
      pure (store, row.collection_revision)
    else store.writePublication p

/-- `publish_revision`. -/
def publishRevision (p : Publication) : Raises (PostgresKnowledgeStore × Nat) := do
  require (p.profile.dimension = indexedEmbeddingDimension)
    (knowledgeError "embedding dimension mismatch")
  require (∀ vector ∈ p.embeddings.values, vector.length = indexedEmbeddingDimension)
    (knowledgeError "embedding dimension mismatch")
  transaction (store.publishInTransaction p)

/-- The row that `tombstone` inserts after the current one. -/
def tombstoneOf (current : DocumentRevision) (created_at : Decimal) : DocumentRevision :=
  { current with
    source_revision := current.source_revision + 1
    created_at := created_at
    tombstoned := true
    source_revision_pos := current.next_revision_pos }

/-- `tombstone`. -/
def tombstone (key : SourceKey) (created_at : JsonFloat) : Raises (PostgresKnowledgeStore × Nat) :=
  transaction do
    require ((store.collections.get? key.collection).isSome)
      (knowledgeError "source does not exist")
    match store.getRevision key with
    | none => .error (knowledgeError "source does not exist")
    | some current => do
      let created_at ← finiteTimestamp created_at "created_at"
      let store ← store.insertDocument (tombstoneOf current created_at)
      store.bumpRevision key.collection

/-- `upsert_nodes`. -/
def upsertNodes (nodes : List GraphNode) : Raises PostgresKnowledgeStore :=
  transaction (insertAll insertNode nodes store)

/-- `upsert_edges`. -/
def upsertEdges (edges : List GraphEdge) : Raises PostgresKnowledgeStore :=
  transaction (insertAll insertEdge edges store)

/-! ## Section 5: The ports -/

/-- The database's ranked searches. -/
structure SearchIndex (F : Type) where
  search_vector : PostgresKnowledgeStore → CollectionKey → RequiredText → List Decimal → Nat →
    Raises (List (String × F))
  search_keyword : PostgresKnowledgeStore → CollectionKey → RequiredText → String → Nat →
    Raises (List (String × F))

/-- What retrieval reads. -/
def reader {F : Type} (index : SearchIndex F) : KnowledgeReader F where
  collection_revision collection := .ok (store.collectionRevision collection)
  search_vector := index.search_vector store
  search_keyword := index.search_keyword store
  load_chunks chunk_ids := .ok (store.loadChunks chunk_ids)
  nodes_for_chunks chunk_ids := .ok (store.nodesForChunks chunk_ids)
  traverse tenant_id principal_id seed_node_ids max_depth max_nodes :=
    .ok (store.traverse tenant_id principal_id seed_node_ids max_depth max_nodes)

/-- What writers call. -/
def publisher : KnowledgePublisher PostgresKnowledgeStore where
  get_revision store key := .ok (store.getRevision key)
  collection_revision store collection := .ok (store.collectionRevision collection)
  embedding_profile store collection := .ok (store.embeddingProfile collection)
  list_live_chunks store collection principal_id :=
    .ok (store.listLiveChunks collection principal_id)
  publish_revision := publishRevision
  tombstone := tombstone
  upsert_nodes := upsertNodes
  upsert_edges := upsertEdges

end PostgresKnowledgeStore

end CBrain.Knowledge
