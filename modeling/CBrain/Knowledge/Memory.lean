import CBrain.Knowledge.Ports

/-! # The in-memory store and cache

    Models `InMemoryKnowledgeStore` and `InMemoryKVCache`
    (`cbrain/knowledge/stores/memory.py`).  Every method that writes runs
    under the store's lock, so it is one step on the store.

    The cosine of two vectors of one length is a parameter (`similarity`), as
    is `str.casefold`. -/

namespace CBrain.Knowledge

/-! ## Section 1: The cache -/

/-- `InMemoryKVCache`: an expiry time and chunk ids for each encoded key. -/
structure InMemoryKVCache where
  entries : Table String (Decimal × List String)

namespace InMemoryKVCache

/-- A cache without entries. -/
def empty : InMemoryKVCache := ⟨Table.empty⟩

/-- `get`, with what `time.time()` returns. -/
def get (cache : InMemoryKVCache) (key : CacheKey) (now : Decimal) :
    InMemoryKVCache × Option (List String) :=
  match cache.entries.get? key.encoded with
  | none => (cache, none)
  | some (expires_at, value) =>
    if expires_at ≤ now then (⟨cache.entries.erase key.encoded⟩, none) else (cache, some value)

/-- `set`, with what `time.time()` returns. -/
def set (cache : InMemoryKVCache) (key : CacheKey) (chunk_ids : List String)
    (ttl_seconds now : Decimal) : InMemoryKVCache :=
  ⟨cache.entries.set key.encoded (now + ttl_seconds, chunk_ids)⟩

/-- What was set is returned until it expires. -/
theorem get_set (cache : InMemoryKVCache) (key : CacheKey) (chunk_ids : List String)
    {ttl_seconds now later : Decimal} (hlive : ¬ now + ttl_seconds ≤ later) :
    (cache.set key chunk_ids ttl_seconds now).get key later =
      (cache.set key chunk_ids ttl_seconds now, some chunk_ids) := by
  unfold get set
  simp only [Table.get?_set_self]
  rw [if_neg hlive]

end InMemoryKVCache

/-! ## Section 2: The store -/

/-- `InMemoryKnowledgeStore`. -/
structure InMemoryKnowledgeStore where
  revisions : Table SourceKey DocumentRevision
  chunks : Registry String KnowledgeChunk KnowledgeChunk.chunk_id
  live_chunks : Table SourceKey (List String)
  embeddings : Table String (List Decimal)
  nodes : Registry RequiredText GraphNode GraphNode.node_id
  edges : Registry RequiredText GraphEdge GraphEdge.edge_id
  collection_revisions : Table CollectionKey Nat
  profiles : Table CollectionKey EmbeddingProfile
  deriving DecidableEq

namespace InMemoryKnowledgeStore

/-- A store without documents. -/
def empty : InMemoryKnowledgeStore where
  revisions := Table.empty
  chunks := Registry.empty
  live_chunks := Table.empty
  embeddings := Table.empty
  nodes := Registry.empty
  edges := Registry.empty
  collection_revisions := Table.empty
  profiles := Table.empty

variable (store : InMemoryKnowledgeStore)

/-- `get_revision`. -/
def getRevision (key : SourceKey) : Option DocumentRevision := store.revisions.get? key

/-- `_is_tombstoned`. -/
def isTombstoned (chunk : KnowledgeChunk) : Bool :=
  match store.revisions.get? chunk.key with
  | none => true
  | some revision => revision.tombstoned

/-- `list_live_chunks`. -/
def listLiveChunks (collection : CollectionKey) (principal_id : RequiredText) :
    List KnowledgeChunk :=
  (store.chunks.values.filter fun chunk =>
    chunk.key.collection = collection && authorized chunk principal_id &&
      !store.isTombstoned chunk).sortBy KnowledgeChunk.chunk_id

/-- The chunk that `load_chunks` finds under an id. -/
def findChunk (chunk_id : String) : Option KnowledgeChunk :=
  (store.chunks.get? chunk_id).filter fun chunk => !store.isTombstoned chunk

/-- `load_chunks`. -/
def loadChunks (chunk_ids : List String) : List KnowledgeChunk :=
  chunk_ids.filterMap store.findChunk

/-- `collection_revision`. -/
def collectionRevision (collection : CollectionKey) : Nat :=
  (store.collection_revisions.get? collection).getD 0

/-- `embedding_profile`. -/
def embeddingProfile (collection : CollectionKey) : Option EmbeddingProfile :=
  store.profiles.get? collection

section search
variable {F : Type} [Score F]

/-- `_cosine`: `zip(..., strict=True)` refuses vectors of different lengths. -/
def cosine (similarity : List Decimal → List Decimal → F) (left right : List Decimal) :
    Raises F :=
  if right.length < left.length then
    .error (Exn.of .valueError "zip() argument 2 is shorter than argument 1")
  else if left.length < right.length then
    .error (Exn.of .valueError "zip() argument 2 is longer than argument 1")
  else .ok (similarity left right)

/-- The scores of some embedded chunks. -/
def scoreVectors (similarity : List Decimal → List Decimal → F) (vector : List Decimal) :
    List (String × List Decimal) → Raises (List (String × F))
  | [] => .ok []
  | (chunk_id, embedding) :: rest => do
    let score ← cosine similarity vector embedding
    let scored ← scoreVectors similarity vector rest
    pure ((chunk_id, score) :: scored)

/-- `search_vector`. -/
def searchVector (similarity : List Decimal → List Decimal → F) (collection : CollectionKey)
    (principal_id : RequiredText) (vector : List Decimal) (limit : Nat) :
    Raises (List (String × F)) := do
  let embedded := (store.listLiveChunks collection principal_id).filterMap fun chunk =>
    (store.embeddings.get? chunk.chunk_id).map fun embedding => (chunk.chunk_id, embedding)
  let scored ← scoreVectors similarity vector embedded
  pure ((scored.sortBy rankKey).take limit)

/-- The terms of a query. -/
def queryTerms (casefold : String → String) (query : String) : Finset String :=
  (pySplit (casefold (normalizeText query))).toFinset

/-- The terms that a chunk contains. -/
def overlap (casefold : String → String) (terms : Finset String) (chunk : KnowledgeChunk) : Nat :=
  (terms ∩ (pySplit (casefold chunk.text)).toFinset).card

/-- `search_keyword`. -/
def searchKeyword (casefold : String → String) (collection : CollectionKey)
    (principal_id : RequiredText) (query : String) (limit : Nat) : List (String × F) :=
  let terms := queryTerms casefold query
  let scored := (store.listLiveChunks collection principal_id).filterMap fun chunk =>
    let n := overlap casefold terms chunk
    if n = 0 then none else some (chunk.chunk_id, Score.ofCount n)
  (scored.sortBy rankKey).take limit

end search

/-- `upsert_nodes`. -/
def upsertNodes (nodes : List GraphNode) : InMemoryKnowledgeStore :=
  { store with nodes := store.nodes.putAll nodes }

/-- `upsert_edges`. -/
def upsertEdges (edges : List GraphEdge) : InMemoryKnowledgeStore :=
  { store with edges := store.edges.putAll edges }

/-- `nodes_for_chunks`. -/
def nodesForChunks (chunk_ids : List String) : List GraphNode :=
  store.nodes.values.filter fun node =>
    node.provenance_chunk_ids.any fun chunk_id => chunk_id.val ∈ chunk_ids

/-! ### Traversal -/

/-- The chunk of an id, if the id is in `_authorized_chunk_ids`. -/
def allowedChunk (tenant_id principal_id : RequiredText) (chunk_id : String) :
    Option KnowledgeChunk :=
  (store.findChunk chunk_id).filter fun chunk =>
    chunk.tenant_id = tenant_id && authorized chunk principal_id

/-- Some of the ids is in `_authorized_chunk_ids`. -/
def supported (tenant_id principal_id : RequiredText) (provenance : List RequiredText) : Bool :=
  provenance.any fun chunk_id => (store.allowedChunk tenant_id principal_id chunk_id.val).isSome

/-- The node of a key, if `traverse` shows it. -/
def visibleNode (tenant_id principal_id node_id : RequiredText) : Option GraphNode :=
  (store.nodes.get? node_id).filter fun node =>
    node.tenant_id = tenant_id && store.supported tenant_id principal_id node.provenance_chunk_ids

/-- The edges that `traverse` shows between visible nodes. -/
def supportedEdges (tenant_id principal_id : RequiredText) : List GraphEdge :=
  store.edges.values.filter fun edge =>
    edge.tenant_id = tenant_id && store.supported tenant_id principal_id edge.provenance_chunk_ids

/-- `traverse`. -/
def traverse (tenant_id principal_id : RequiredText) (seed_node_ids : List RequiredText)
    (max_depth max_nodes : Nat) : List GraphPath :=
  boundedWalk
    (visibleGraph (store.visibleNode tenant_id principal_id)
      (store.supportedEdges tenant_id principal_id))
    seed_node_ids max_depth max_nodes
    (citationsForNodes (store.allowedChunk tenant_id principal_id))

/-! ### Publication -/

/-- The next number of a collection. -/
def nextRevision (collection : CollectionKey) : Nat := store.collectionRevision collection + 1

/-- What an accepted change of a collection does to the revisions. -/
theorem collectionRevision_set {store store' : InMemoryKnowledgeStore} {bumped : CollectionKey}
    (h : store'.collection_revisions =
      store.collection_revisions.set bumped (store.nextRevision bumped)) (collection : CollectionKey) :
    store'.collectionRevision collection =
      store.collectionRevision collection + if bumped = collection then 1 else 0 := by
  unfold collectionRevision
  rw [h, Table.get?_set]
  by_cases hcollection : collection = bumped
  · rw [if_pos hcollection, if_pos hcollection.symm, hcollection]
    rfl
  · rw [if_neg hcollection, if_neg (Ne.symm hcollection)]
    rfl

/-- What a publication writes: the source's previous chunks are removed first. -/
def written (p : Publication) : InMemoryKnowledgeStore :=
  let previous := (store.live_chunks.get? p.key).getD []
  { revisions := store.revisions.set p.key p.revision
    chunks := (store.chunks.removeAll previous).putAll p.chunks
    live_chunks := store.live_chunks.set p.key p.chunk_ids
    embeddings := (store.embeddings.eraseAll previous).setAll Prod.fst Prod.snd p.embeddings.rows
    nodes := store.nodes.putAll p.nodes
    edges := store.edges.putAll p.edges
    collection_revisions :=
      store.collection_revisions.set p.key.collection (store.nextRevision p.key.collection)
    profiles := store.profiles.set p.key.collection p.profile }

/-- `publish_revision`. -/
def publishRevision (p : Publication) : Raises (InMemoryKnowledgeStore × Nat) := do
  require (∀ profile ∈ store.profiles.get? p.key.collection, profile = p.profile)
    (knowledgeError "embedding profile is immutable after first revision")
  require (∀ vector ∈ p.embeddings.values, vector.length = p.profile.dimension)
    (knowledgeError "embedding dimension mismatch")
  pure (store.written p, store.nextRevision p.key.collection)

/-- The revision that `tombstone` puts after the current one. -/
def tombstoneOf (key : SourceKey) (current : DocumentRevision) (created_at : Decimal) :
    DocumentRevision where
  tenant_id := key.tenant_id
  collection_id := key.collection_id
  source_id := key.source_id
  source_revision := current.source_revision + 1
  content_digest := current.content_digest
  provenance := current.provenance
  acl_principals := current.acl_principals
  created_at := created_at
  schema_version := knowledgeSchemaVersion
  tombstoned := true
  source_revision_pos := current.next_revision_pos

/-- `tombstone`. -/
def tombstone (key : SourceKey) (created_at : JsonFloat) :
    Raises (InMemoryKnowledgeStore × Nat) :=
  match store.revisions.get? key with
  | none => .error (knowledgeError "source does not exist")
  | some current => do
    let created_at ← finiteTimestamp created_at "created_at"
    pure
      ({ store with
          revisions := store.revisions.set key (tombstoneOf key current created_at)
          collection_revisions :=
            store.collection_revisions.set key.collection (store.nextRevision key.collection) },
        store.nextRevision key.collection)

/-! ## Section 3: The ports -/

/-- What retrieval reads. -/
def reader {F : Type} [Score F] (similarity : List Decimal → List Decimal → F)
    (casefold : String → String) : KnowledgeReader F where
  collection_revision collection := .ok (store.collectionRevision collection)
  search_vector := store.searchVector similarity
  search_keyword collection principal_id query limit :=
    .ok (store.searchKeyword casefold collection principal_id query limit)
  load_chunks chunk_ids := .ok (store.loadChunks chunk_ids)
  nodes_for_chunks chunk_ids := .ok (store.nodesForChunks chunk_ids)
  traverse tenant_id principal_id seed_node_ids max_depth max_nodes :=
    .ok (store.traverse tenant_id principal_id seed_node_ids max_depth max_nodes)

/-- What writers call. -/
def publisher : KnowledgePublisher InMemoryKnowledgeStore where
  get_revision store key := .ok (store.getRevision key)
  collection_revision store collection := .ok (store.collectionRevision collection)
  embedding_profile store collection := .ok (store.embeddingProfile collection)
  list_live_chunks store collection principal_id :=
    .ok (store.listLiveChunks collection principal_id)
  publish_revision := publishRevision
  tombstone := tombstone
  upsert_nodes store nodes := .ok (store.upsertNodes nodes)
  upsert_edges store edges := .ok (store.upsertEdges edges)

end InMemoryKnowledgeStore

end CBrain.Knowledge
